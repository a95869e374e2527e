import Mathlib.Data.List.DropRight
import Mathlib.Data.List.Forall2

/-!
# Steps and calls in sequence

Reading and laying out are sequences of steps that may fail. A sequence succeeds if all of its steps
do, and fails with the fault of the first one that does not. Builders are told the properties of
what they make one call after another: some calls start anew, and of several calls that set one
property the last one counts.

* `bind_eq_ok_iff`, `bind_eq_error_iff` and `bind_unit_eq_ok_iff`: two steps, one after the other.
  `mapError_eq_ok_iff` and `exists_map_eq_ok_iff`: one step whose faults are told in another way,
  and one whose result is turned into another one.
* `mapM_eq_ok_iff` and `exists_mapM_iff`: a step for each element of a list. `mapM_eq_pure` and
  `foldlM_eq_pure`: the same if none of them fails. `map_mapM`: the same with other results.
* `since`: the calls after the last one that starts anew. `lastOf`: the value that was set last.
-/

namespace GridLayout

section

variable {ε α β : Type} {f : Except ε α} {k : α → Except ε β}

/-- Two steps succeed if the first does, and the second does with its result. -/
theorem bind_eq_ok_iff {b : β} : f >>= k = .ok b ↔ ∃ a, f = .ok a ∧ k a = .ok b := by
  cases f <;> simp [bind, Except.bind]

/-- Two steps fail if the first does, or the second does with its result. -/
theorem bind_eq_error_iff {fault : ε} :
    f >>= k = .error fault ↔ f = .error fault ∨ ∃ a, f = .ok a ∧ k a = .error fault := by
  cases f <;> simp [bind, Except.bind]

/-- Two checks succeed if both do. -/
theorem bind_unit_eq_ok_iff {f f' : Except ε Unit} :
    (f >>= fun _ => f') = .ok () ↔ f = .ok () ∧ f' = .ok () := by
  cases f <;> simp [bind, Except.bind]

/-- A step succeeds whichever way its faults are told. -/
theorem mapError_eq_ok_iff {ε' : Type} {tell : ε → ε'} {a : α} :
    f.mapError tell = .ok a ↔ f = .ok a := by
  cases f <;> simp [Except.mapError]

/-- A result that was turned into another one is what a step had. -/
theorem map_eq_ok_iff {turn : α → β} {b : β} :
    turn <$> f = .ok b ↔ ∃ a, f = .ok a ∧ turn a = b := by
  cases f <;> simp [Functor.map, Except.map]

/-- A step has a result that is turned into another one exactly if it has one. -/
theorem exists_map_eq_ok_iff {turn : α → β} :
    (∃ b, f.map turn = .ok b) ↔ ∃ a, f = .ok a := by
  cases f <;> simp [Except.map]

/-- A step for every element of a list succeeds if each of them does. -/
theorem mapM_eq_ok_iff {f : α → Except ε β} {l : List α} {results : List β} :
    l.mapM f = .ok results ↔ List.Forall₂ (fun a b => f a = .ok b) l results := by
  induction l generalizing results with
  | nil => simp [pure, Except.pure, eq_comm]
  | cons a l ih =>
    rw [List.mapM_cons, bind_eq_ok_iff]
    constructor
    · rintro ⟨b, hb, h⟩
      obtain ⟨rest, hrest, h⟩ := bind_eq_ok_iff.1 h
      obtain rfl := Except.ok.inj h
      exact .cons hb (ih.1 hrest)
    · rintro (_ | ⟨hb, hrest⟩)
      exact ⟨_, hb, bind_eq_ok_iff.2 ⟨_, ih.2 hrest, rfl⟩⟩

/-- There are results exactly if there is one for each element. -/
theorem exists_mapM_iff {f : α → Except ε β} {l : List α} :
    (∃ results, l.mapM f = .ok results) ↔ ∀ a ∈ l, ∃ b, f a = .ok b := by
  induction l with
  | nil => simp [pure, Except.pure]
  | cons a l ih =>
    rw [List.forall_mem_cons, ← ih]
    simp only [mapM_eq_ok_iff, List.forall₂_cons_left_iff]
    constructor
    · rintro ⟨_, b, rest, hb, hrest, -⟩
      exact ⟨⟨b, hb⟩, rest, hrest⟩
    · rintro ⟨⟨b, hb⟩, rest, hrest⟩
      exact ⟨_, b, rest, hb, hrest, rfl⟩

/-- Lists that are related element by element have related elements at every place. -/
theorem getElem?_of_forall₂ {R : α → β → Prop} {l : List α} {l' : List β} (h : List.Forall₂ R l l')
    {i : Nat} {a : α} (ha : l[i]? = some a) : ∃ b, l'[i]? = some b ∧ R a b := by
  obtain ⟨hi, rfl⟩ := List.getElem?_eq_some_iff.1 ha
  have hi' : i < l'.length := h.length_eq ▸ hi
  exact ⟨l'[i], List.getElem?_eq_getElem hi', h.get hi hi'⟩

/-- Each result comes from the element at its place. -/
theorem getElem?_of_mapM {f : α → Except ε β} {l : List α} {results : List β}
    (h : l.mapM f = .ok results) {i : Nat} {b : β} (hb : results[i]? = some b) :
    ∃ a, l[i]? = some a ∧ f a = .ok b :=
  getElem?_of_forall₂ (mapM_eq_ok_iff.1 h).flip hb

end

section

variable {m : Type → Type} [Monad m] [LawfulMonad m] {α β : Type}

/-- If the step has a result for every element, so has the list. -/
theorem mapM_eq_pure {f : α → m β} (result : α → β) {l : List α}
    (h : ∀ a ∈ l, f a = pure (result a)) : l.mapM f = pure (l.map result) := by
  induction l with
  | nil => simp
  | cons a l ih =>
    have hrest := ih fun b hb => h b (List.mem_cons_of_mem a hb)
    rw [List.mapM_cons, h a (by simp), pure_bind, hrest, pure_bind, List.map_cons]

/-- Results may be turned into others one by one. -/
theorem map_mapM {γ : Type} (f : α → m β) (turn : β → γ) (l : List α) :
    List.map turn <$> l.mapM f = l.mapM fun a => turn <$> f a := by
  induction l with
  | nil => simp
  | cons a l ih =>
    simp only [List.mapM_cons, map_bind, bind_map_left, ← ih, map_pure, List.map_cons]

/-- If every step has a result and keeps what the next ones need, so has the sequence. -/
theorem foldlM_eq_pure {p : β → Prop} {f : β → α → m β} {step : β → α → β} {l : List α}
    (h : ∀ b, p b → ∀ a ∈ l, f b a = pure (step b a) ∧ p (step b a)) {b : β} (hb : p b) :
    l.foldlM f b = pure (l.foldl step b) := by
  induction l generalizing b with
  | nil => rfl
  | cons a l ih =>
    obtain ⟨hstep, hp⟩ := h b hb a (by simp)
    rw [List.foldlM_cons, hstep, pure_bind, List.foldl_cons]
    exact ih (fun b hb c hc => h b hb c (List.mem_cons_of_mem a hc)) hp

end

/-! ## Calls -/

section

variable {α β : Type}

/-- The calls after the last one that starts anew. -/
def since (startsAnew : α → Bool) (calls : List α) : List α :=
  calls.rtakeWhile fun call => !startsAnew call

/-- The value of the last call that sets one. -/
def lastOf (value? : α → Option β) (calls : List α) : Option β :=
  (calls.filterMap value?).getLast?

theorem since_concat_of_startsAnew {startsAnew : α → Bool} {call : α} (h : startsAnew call = true)
    (calls : List α) : since startsAnew (calls ++ [call]) = [] :=
  List.rtakeWhile_concat_neg _ _ _ (by simp [h])

theorem since_concat_of_not {startsAnew : α → Bool} {call : α} (h : startsAnew call = false)
    (calls : List α) :
    since startsAnew (calls ++ [call]) = since startsAnew calls ++ [call] :=
  List.rtakeWhile_concat_pos _ _ _ (by simp [h])

@[simp] theorem lastOf_nil (value? : α → Option β) : lastOf value? [] = none := rfl

/-- The last call wins, if it sets a value. -/
@[simp] theorem lastOf_concat (value? : α → Option β) (calls : List α) (call : α) :
    lastOf value? (calls ++ [call]) = (value? call).or (lastOf value? calls) := by
  cases h : value? call <;> simp [lastOf, h]

theorem lastOf_eq_none_iff {value? : α → Option β} {calls : List α} :
    lastOf value? calls = none ↔ ∀ call ∈ calls, value? call = none := by
  simp [lastOf]

end

end GridLayout

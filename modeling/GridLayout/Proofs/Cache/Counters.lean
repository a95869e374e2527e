import GridLayout.Proofs.Cache.Flagged

/-!
# What a cache counts

A cache counts the validations that were answered from it, and those for which it was filled anew.
Every validation that succeeds is one or the other, and one that fails is neither. Which one it is
depends on the calls before: the cache is filled by the first validation that succeeds since it was
made or last invalidated.

* `Cache.run`: what any sequence of calls makes of an empty cache.
* `Cache.IsFirst`: the first successful validation since the last invalidation.
* `Cache.isValid_run_iff`: a cache is valid exactly if a validation has succeeded since then.
* `Cache.countsValidations`: what a further call does to the counters, and a bound for all calls.
-/

namespace GridLayout.Cache

/-! ## Calls -/

/-- What is asked of a cache. -/
inductive Call where
  | validate (g : Grid)
  | weigh (g : Grid) (axis : Axis)
  | invalidate
  | invalidateWeights
  | clear

/-- The call makes the classification invalid. -/
def Call.invalidates : Call → Bool
  | invalidate | clear => true
  | validate _ | weigh .. | invalidateWeights => false

/-- The cache after a call. -/
def after (cache : Cache) : Call → Cache
  | .validate g => (g.validate.run cache).2
  | .weigh g axis => (g.totalWeight axis cache).2
  | .invalidate => cache.invalidate
  | .invalidateWeights => cache.invalidateWeights
  | .clear => empty

/-- The cache after all calls. -/
def run (calls : List Call) : Cache := calls.foldl after empty

theorem run_concat (calls : List Call) (call : Call) :
    run (calls ++ [call]) = (run calls).after call := by
  rw [run, List.foldl_concat, run]

/-- After the calls the grid is validated successfully. -/
def Validates (calls : List Call) (g : Grid) : Prop := (g.validate.run (run calls)).1 = .ok ()

/-- Some validation has succeeded, and no later call has invalidated it. -/
def IsUpToDate (calls : List Call) : Prop :=
  ∃ before g later, calls = before ++ .validate g :: later ∧ Validates before g ∧
    ∀ call ∈ later, call.invalidates = false

/-- After the calls the grid is validated successfully, for the first time since the cache was made
or since the last call that invalidates. -/
def IsFirst (calls : List Call) (g : Grid) : Prop := Validates calls g ∧ ¬IsUpToDate calls

/-! ## One call -/

section

variable (cache : Cache)

/-- All that validating can do: a valid cache answers, and one that is not valid is filled or stays
as it is. -/
theorem validate_cases (g : Grid) :
    cache.isValid = true ∧ g.validate.run cache = (.ok (), { cache with hits := cache.hits + 1 }) ∨
    cache.isValid = false ∧ (∃ c, g.classify = .ok c ∧ g.validate.run cache =
      (.ok (), { cache with classification := some c, rebuilds := cache.rebuilds + 1 })) ∨
    cache.isValid = false ∧ ∃ fault, g.validate.run cache = (.error fault, cache) := by
  cases h : cache.isValid with
  | true => exact .inl ⟨rfl, Grid.validate_run_of_isValid h⟩
  | false =>
    have hrun := Grid.validate_run_of_not_isValid (g := g) h
    rcases hclassify : g.classify with fault | c <;> rw [hclassify] at hrun
    · exact .inr (.inr ⟨rfl, fault, hrun⟩)
    · exact .inr (.inl ⟨rfl, c, rfl, hrun⟩)

/-- Looking up the weights changes nothing but these. -/
theorem after_weigh (g : Grid) (axis : Axis) :
    ∃ weights, cache.after (.weigh g axis) = { cache with weights } := by
  simp only [after, Grid.totalWeight]
  cases cache.weights.along axis with
  | none => exact ⟨_, rfl⟩
  | some total => exact ⟨cache.weights, rfl⟩

/-- A cache is valid after a call that does not invalidate, if it was before or the call is a
validation that succeeds. -/
theorem isValid_after_iff (call : Call) : (cache.after call).isValid = true ↔
    call.invalidates = false ∧ (cache.isValid = true ∨
      ∃ g, call = .validate g ∧ (g.validate.run cache).1 = .ok ()) := by
  cases call with
  | validate g =>
    rcases cache.validate_cases g with ⟨h, hrun⟩ | ⟨h, c, -, hrun⟩ | ⟨h, fault, hrun⟩
    · have hafter : (cache.after (.validate g)).isValid = true := by rwa [after, hrun]
      simp [hafter, h, Call.invalidates]
    · simp [after, hrun, isValid, Call.invalidates]
    · simp [after, hrun, h, Call.invalidates]
  | weigh g axis =>
    obtain ⟨weights, h⟩ := cache.after_weigh g axis
    simp [h, isValid, Call.invalidates]
  | invalidate | clear | invalidateWeights =>
    simp [after, invalidate, invalidateWeights, empty, isValid, Call.invalidates]

/-- Only validating and clearing touch the counters. -/
theorem counters_after {call : Call} (hvalidate : ∀ g, call ≠ .validate g)
    (hclear : call ≠ .clear) :
    (cache.after call).hits = cache.hits ∧ (cache.after call).rebuilds = cache.rebuilds := by
  cases call with
  | validate g => exact absurd rfl (hvalidate g)
  | clear => exact absurd rfl hclear
  | weigh g axis =>
    obtain ⟨weights, h⟩ := cache.after_weigh g axis
    rw [h]
    exact ⟨rfl, rfl⟩
  | invalidate | invalidateWeights => exact ⟨rfl, rfl⟩

end

/-! ## All calls -/

theorem not_isUpToDate_nil : ¬IsUpToDate [] := by
  rintro ⟨before, g, later, h, -⟩
  simp at h

theorem isUpToDate_concat_iff {calls : List Call} {call : Call} :
    IsUpToDate (calls ++ [call]) ↔ call.invalidates = false ∧
      (IsUpToDate calls ∨ ∃ g, call = .validate g ∧ Validates calls g) := by
  constructor
  · rintro ⟨before, g, later, heq, hok, hlater⟩
    rcases List.eq_nil_or_concat later with rfl | ⟨later, last, rfl⟩
    · obtain ⟨rfl, hlast⟩ := List.append_inj' heq rfl
      obtain rfl := List.singleton_inj.1 hlast
      exact ⟨rfl, .inr ⟨g, rfl, hok⟩⟩
    · rw [List.concat_eq_append] at heq hlater
      rw [← List.cons_append, ← List.append_assoc] at heq
      obtain ⟨rfl, hlast⟩ := List.append_inj' heq rfl
      obtain rfl := List.singleton_inj.1 hlast
      refine ⟨hlater call (by simp), .inl ⟨before, g, later, rfl, hok, fun other hother => ?_⟩⟩
      exact hlater other (List.mem_append_left _ hother)
  · rintro ⟨hcall, ⟨before, g, later, rfl, hok, hlater⟩ | ⟨g, rfl, hok⟩⟩
    · refine ⟨before, g, later ++ [call], by simp, hok, fun other hother => ?_⟩
      rcases List.mem_append.1 hother with hother | hother
      · exact hlater other hother
      · rwa [List.mem_singleton.1 hother]
    · exact ⟨calls, g, [], rfl, hok, by simp⟩

/-- **The flag says what the calls say**: a cache is valid exactly if it is up to date. -/
theorem isValid_run_iff (calls : List Call) : (run calls).isValid = true ↔ IsUpToDate calls := by
  induction calls using List.reverseRecOn with
  | nil => exact iff_of_false (by simp [run, empty, isValid]) not_isUpToDate_nil
  | append_singleton calls call ih =>
    rw [run_concat, isValid_after_iff, isUpToDate_concat_iff, ih]
    rfl

/-- All that a further validation can do after any calls. -/
theorem run_validate_cases (calls : List Call) (g : Grid) :
    (Validates calls g ∧ IsUpToDate calls ∧ run (calls ++ [.validate g]) =
      { run calls with hits := (run calls).hits + 1 }) ∨
    (IsFirst calls g ∧ ∃ c, c.IsPartition g ∧ run (calls ++ [.validate g]) =
      { run calls with classification := some c, rebuilds := (run calls).rebuilds + 1 }) ∨
    (¬Validates calls g ∧ run (calls ++ [.validate g]) = run calls) := by
  have hflag := isValid_run_iff calls
  rw [run_concat, after]
  rcases (run calls).validate_cases g with ⟨h, hrun⟩ | ⟨h, c, hc, hrun⟩ | ⟨h, fault, hrun⟩ <;>
    rw [h] at hflag <;> rw [IsFirst, Validates, hrun]
  · exact .inl ⟨rfl, hflag.1 rfl, rfl⟩
  · have hstale : ¬IsUpToDate calls := fun hup => Bool.false_ne_true (hflag.2 hup)
    exact .inr (.inl ⟨⟨rfl, hstale⟩, c, Classification.isPartition_of_classify hc, rfl⟩)
  · exact .inr (.inr ⟨nofun, rfl⟩)

/-- There are at most as many rebuilds as invalidations, and one more while the cache is valid. -/
theorem rebuilds_run_le (calls : List Call) :
    (run calls).rebuilds ≤ calls.countP Call.invalidates + (run calls).isValid.toNat := by
  induction calls using List.reverseRecOn with
  | nil => rfl
  | append_singleton calls call ih =>
    rw [run_concat, List.countP_append, List.countP_singleton]
    cases call with
    | validate g =>
      -- a rebuild makes valid what was not, so both sides grow by one
      rcases (run calls).validate_cases g with ⟨h, hrun⟩ | ⟨h, c, -, hrun⟩ | ⟨h, fault, hrun⟩
      · simpa [after, hrun, isValid, Call.invalidates] using ih
      · simp only [h, Bool.toNat_false] at ih
        simpa [after, hrun, isValid, Call.invalidates] using ih
      · simpa [after, hrun, Call.invalidates] using ih
    | weigh g axis =>
      obtain ⟨weights, h⟩ := (run calls).after_weigh g axis
      simpa [h, isValid, Call.invalidates] using ih
    | invalidate =>
      have hflag := (run calls).isValid.toNat_le
      simp only [after, invalidate, isValid, Call.invalidates, Option.isSome_none, Bool.toNat_false,
        if_true, Nat.add_zero]
      omega
    | clear => simp [after, empty]
    | invalidateWeights => simpa [after, invalidateWeights, isValid, Call.invalidates] using ih

/-! ## What is counted -/

/-- A validation that succeeds is counted once: as a rebuild if it is the first one, and else as a
hit. One that fails changes nothing, and other calls leave the counters alone or, if they clear the
cache, start them again. So there is at most one rebuild more than there are invalidations. -/
structure CountsValidations (calls : List Call) : Prop where
  counted : ∀ g, Validates calls g →
    (IsUpToDate calls ∧ run (calls ++ [.validate g]) =
      { run calls with hits := (run calls).hits + 1 }) ∨
    (IsFirst calls g ∧ ∃ c, c.IsPartition g ∧ run (calls ++ [.validate g]) =
      { run calls with classification := some c, rebuilds := (run calls).rebuilds + 1 })
  refused : ∀ g, ¬Validates calls g → run (calls ++ [.validate g]) = run calls
  other : ∀ call, (∀ g, call ≠ .validate g) → call ≠ .clear →
    (run (calls ++ [call])).hits = (run calls).hits ∧
      (run (calls ++ [call])).rebuilds = (run calls).rebuilds
  rebuilt_iff : ∀ call, (run (calls ++ [call])).rebuilds = (run calls).rebuilds + 1 ↔
    ∃ g, call = .validate g ∧ IsFirst calls g
  rebuilds_le : (run calls).rebuilds ≤ 1 + calls.countP Call.invalidates

/-- **Every validation that succeeds is counted once**, after any calls. -/
theorem countsValidations (calls : List Call) : CountsValidations calls := by
  refine ⟨fun g hok => ?_, fun g hnot => ?_, fun call => ?_, fun call => ?_, ?_⟩
  · rcases run_validate_cases calls g with ⟨-, hup, hrun⟩ | hfirst | ⟨hnot, -⟩
    · exact .inl ⟨hup, hrun⟩
    · exact .inr hfirst
    · exact absurd hok hnot
  · rcases run_validate_cases calls g with ⟨hok, -⟩ | ⟨hfirst, -⟩ | ⟨-, hrun⟩
    · exact absurd hok hnot
    · exact absurd hfirst.1 hnot
    · exact hrun
  · rw [run_concat]
    exact (run calls).counters_after
  · by_cases hvalidate : ∃ g, call = .validate g
    · obtain ⟨g, rfl⟩ := hvalidate
      simp only [Call.validate.injEq, exists_eq_left']
      rcases run_validate_cases calls g with ⟨-, hup, hrun⟩ | ⟨hfirst, c, -, hrun⟩ | ⟨hnot, hrun⟩
      · exact iff_of_false (by simp [hrun]) fun hfirst => hfirst.2 hup
      · exact iff_of_true (by rw [hrun]) hfirst
      · exact iff_of_false (by simp [hrun]) fun hfirst => hnot hfirst.1
    · refine iff_of_false (fun heq => ?_) fun ⟨g, hcall, _⟩ => hvalidate ⟨g, hcall⟩
      rw [run_concat] at heq
      by_cases hclear : call = .clear
      · subst hclear
        cases heq
      · have hsame := ((run calls).counters_after (not_exists.1 hvalidate) hclear).2
        omega
  · have hle := rebuilds_run_le calls
    have hflag := (run calls).isValid.toNat_le
    omega

end GridLayout.Cache

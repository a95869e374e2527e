import GridLayout.Proofs.Steps
import GridLayout.Proofs.Track.Specification
import GridLayout.Track.Builder

/-!
# What a track builder creates

A builder can be called in any order and used for one track after another. What it creates depends
on the calls since it was last started anew, and on its default alignment, which is all that stays.
A value out of range spoils what is created even if it is set again; the first one is reported.

* `TrackBuilder.Call`: what can be asked of a builder, and `TrackBuilder.step`: the builder after
  it.
* `TrackBuilder.Collects` is the invariant: what a builder holds of the calls.
* `TrackBuilder.Creates` says what calls are worth, and `TrackBuilder.create_exact` that this is
  what is created after any sequence of calls.
-/

namespace GridLayout

namespace TrackBuilder

/-! ## Calls -/

/-- What can be asked of a builder. -/
inductive Call where
  | setDefaultAlignment (a : Alignment)
  | setAlignment (a : Alignment)
  | setSizing (s : Sizing)
  | setMinimum (l : Length)
  | setWeight (n : Int)
  | reset
  | create
  | createColumn
  | createRow
  | read (spec : String)

/-- The builder after a call. -/
def step (b : TrackBuilder) : Call → TrackBuilder
  | .setDefaultAlignment a => b.setDefaultAlignment a
  | .setAlignment a => b.setAlignment a
  | .setSizing s => b.setSizing s
  | .setMinimum l => b.setMinimum l
  | .setWeight n => b.setWeight n
  | .reset => b.reset
  | .create => b.create.2
  | .createColumn => b.createColumn.2
  | .createRow => b.createRow.2
  | .read spec => (b.read spec).2

namespace Call

/-- The call leaves nothing set, also when it fails. -/
def startsAnew : Call → Bool
  | reset | create | createColumn | createRow | read _ => true
  | setDefaultAlignment _ | setAlignment _ | setSizing _ | setMinimum _ | setWeight _ => false

def default? : Call → Option Alignment
  | setDefaultAlignment a => some a
  | _ => none

def alignment? : Call → Option Alignment
  | setAlignment a => some a
  | _ => none

def sizing? : Call → Option Sizing
  | setSizing s => some s
  | _ => none

/-- The least size that is asked for, in range or not. -/
def minimum? : Call → Option Length
  | setMinimum l => some l
  | _ => none

/-- The weight that is asked for, in range or not. -/
def weight? : Call → Option Int
  | setWeight n => some n
  | _ => none

/-- What is wrong with the value that is asked for. -/
def fault? : Call → Option ArgumentFault
  | setMinimum l => if l.value.isNegative then some (.negativeMinimum l) else none
  | setWeight n => if 0 ≤ n ∧ n ≤ maxWeight then none else some (.weightOutOfRange n)
  | _ => none

/-- The call sets a sizing or a least size. -/
def SetsSize (call : Call) : Prop := call.sizing? ≠ none ∨ call.minimum? ≠ none

end Call

/-! ## What calls are worth -/

/-- What is created of the calls since a builder was started anew, in its default alignment. -/
inductive Creates (default : Alignment) (calls : List Call) : Except LayoutError Track → Prop
  | refused {before after : List Call} {call : Call} {fault : ArgumentFault} :
    calls = before ++ call :: after → call.fault? = some fault →
    (∀ earlier ∈ before, earlier.fault? = none) → Creates default calls (.error (.argument fault))
  | noSize :
    (∀ call ∈ calls, call.fault? = none) → (∀ call ∈ calls, ¬call.SetsSize) →
    Creates default calls (.error (.state .noSize))
  | track {t : Track} :
    (∀ call ∈ calls, call.fault? = none) → (∃ call ∈ calls, call.SetsSize) →
    t.alignment = (lastOf Call.alignment? calls).getD default →
    t.sizing = (lastOf Call.sizing? calls).getD .fixed →
    t.minimum = (lastOf Call.minimum? calls).getD .zero →
    t.weight = (lastOf Call.weight? calls).getD 0 → Creates default calls (.ok t)

variable {default : Alignment} {calls : List Call} {b : TrackBuilder}

theorem not_setsSize_iff : (∀ call ∈ calls, ¬call.SetsSize) ↔
    lastOf Call.sizing? calls = none ∧ lastOf Call.minimum? calls = none := by
  simp only [lastOf_eq_none_iff, Call.SetsSize, not_or, not_not, forall_and]

/-- Only one thing is created of the same calls. -/
theorem Creates.unique {result result' : Except LayoutError Track}
    (h : Creates default calls result) (h' : Creates default calls result') : result = result' := by
  have hfirst {before after : List Call} {call : Call} {fault : ArgumentFault}
      (hcalls : calls = before ++ call :: after) (hfault : call.fault? = some fault)
      (hbefore : ∀ earlier ∈ before, earlier.fault? = none) :
      calls.findSome? Call.fault? = some fault :=
    List.findSome?_eq_some_iff.2 ⟨before, call, after, hcalls, hfault, hbefore⟩
  have hnone (hfaults : ∀ call ∈ calls, call.fault? = none) :
      calls.findSome? Call.fault? = none := List.findSome?_eq_none_iff.2 hfaults
  cases h with
  | refused hcalls hfault hbefore =>
    have hfound := hfirst hcalls hfault hbefore
    cases h' with
    | refused hcalls' hfault' hbefore' =>
      obtain rfl := Option.some.inj (hfound.symm.trans (hfirst hcalls' hfault' hbefore'))
      rfl
    | noSize hfaults | track hfaults => exact absurd (hnone hfaults) (by simp [hfound])
  | noSize hfaults hsize =>
    cases h' with
    | refused hcalls hfault hbefore =>
      exact absurd (hnone hfaults) (by simp [hfirst hcalls hfault hbefore])
    | noSize => rfl
    | track _ hsize' =>
      obtain ⟨call, hcall, hsets⟩ := hsize'
      exact absurd hsets (hsize call hcall)
  | @track t hfaults hsize halignment hsizing hminimum hweight =>
    cases h' with
    | refused hcalls hfault hbefore =>
      exact absurd (hnone hfaults) (by simp [hfirst hcalls hfault hbefore])
    | noSize _ hsize' =>
      obtain ⟨call, hcall, hsets⟩ := hsize
      exact absurd hsets (hsize' call hcall)
    | @track t' _ _ halignment' hsizing' hminimum' hweight' =>
      obtain ⟨a, s, l, w, _, _⟩ := t
      obtain ⟨a', s', l', w', _, _⟩ := t'
      obtain rfl : a = a' := halignment.trans halignment'.symm
      obtain rfl : s = s' := hsizing.trans hsizing'.symm
      obtain rfl : l = l' := hminimum.trans hminimum'.symm
      obtain rfl : w = w' := Int.natCast_inj.1 (hweight.trans hweight'.symm)
      rfl

/-! ## What a builder holds -/

/-- What a call that does not start anew does to a builder: it sets one property, or is the first to
be refused. What a builder with a fault holds for the least size and the weight means nothing. -/
structure Adds (b : TrackBuilder) (call : Call) (b' : TrackBuilder) : Prop where
  default_eq : b'.defaultAlignment = call.default?.getD b.defaultAlignment
  alignment_eq : b'.alignment = call.alignment?.or b.alignment
  sizing_eq : b'.sizing = call.sizing?.or b.sizing
  fault_eq : b'.fault = b.fault.or call.fault?
  minimum_eq : b'.fault = none →
    b'.minimum.map Subtype.val = call.minimum?.or (b.minimum.map Subtype.val)
  weight_eq : b'.fault = none → (b'.weight.val : Int) = call.weight?.getD b.weight.val

/-- A value out of range is refused, and that is all it does. -/
theorem adds_refuse (b : TrackBuilder) {call : Call} {fault : ArgumentFault}
    (hdefault : call.default? = none) (halignment : call.alignment? = none)
    (hsizing : call.sizing? = none) (hfault : call.fault? = some fault) :
    b.Adds call (b.refuse fault) := by
  have hrefused : (b.refuse fault).fault ≠ none := by simp [refuse]
  exact ⟨by rw [hdefault]; rfl, by rw [halignment]; rfl, by rw [hsizing]; rfl, by rw [hfault]; rfl,
    fun hnone => absurd hnone hrefused, fun hnone => absurd hnone hrefused⟩

theorem step_setMinimum_of_nonneg (b : TrackBuilder) {l : Length}
    (h : l.value.isNegative = false) :
    b.step (.setMinimum l) = { b with minimum := some ⟨l, h⟩ } := dif_pos h

theorem step_setMinimum_of_negative (b : TrackBuilder) {l : Length}
    (h : ¬l.value.isNegative = false) :
    b.step (.setMinimum l) = b.refuse (.negativeMinimum l) := dif_neg h

theorem step_setWeight_of_inRange (b : TrackBuilder) {n : Int}
    (h : 0 ≤ n ∧ n.toNat ≤ maxWeight) :
    b.step (.setWeight n) = { b with weight := ⟨n.toNat, h.2⟩ } := by
  simp only [step, setWeight, Weight.ofInt?, dif_pos h]

theorem step_setWeight_of_outOfRange (b : TrackBuilder) {n : Int}
    (h : ¬(0 ≤ n ∧ n.toNat ≤ maxWeight)) :
    b.step (.setWeight n) = b.refuse (.weightOutOfRange n) := by
  simp only [step, setWeight, Weight.ofInt?, dif_neg h]

theorem adds_step (b : TrackBuilder) {call : Call} (hkeeps : call.startsAnew = false) :
    b.Adds call (b.step call) := by
  cases call with
  | reset | create | createColumn | createRow | read => cases hkeeps
  | setDefaultAlignment | setAlignment | setSizing =>
    exact ⟨rfl, rfl, rfl, (Option.or_none).symm, fun _ => rfl, fun _ => rfl⟩
  | setMinimum l =>
    by_cases hl : l.value.isNegative = false
    · have hfault : (Call.setMinimum l).fault? = none := by simp [Call.fault?, hl]
      rw [b.step_setMinimum_of_nonneg hl]
      exact ⟨rfl, rfl, rfl, by rw [hfault, Option.or_none], fun _ => rfl, fun _ => rfl⟩
    · rw [b.step_setMinimum_of_negative hl]
      exact b.adds_refuse rfl rfl rfl (by simp [Call.fault?, hl])
  | setWeight n =>
    by_cases hn : 0 ≤ n ∧ n.toNat ≤ maxWeight
    · have hfault : (Call.setWeight n).fault? = none := if_pos ⟨hn.1, Int.toNat_le.1 hn.2⟩
      rw [b.step_setWeight_of_inRange hn]
      exact ⟨rfl, rfl, rfl, by rw [hfault, Option.or_none], fun _ => rfl,
        fun _ => Int.toNat_of_nonneg hn.1⟩
    · rw [b.step_setWeight_of_outOfRange hn]
      exact b.adds_refuse rfl rfl rfl (if_neg fun h => hn ⟨h.1, Int.toNat_le.2 h.2⟩)

/-- A call that starts anew leaves nothing but the default alignment. -/
theorem step_of_startsAnew (b : TrackBuilder) {call : Call} (h : call.startsAnew = true) :
    b.step call = new b.defaultAlignment := by
  cases call with
  | reset | create | createColumn | createRow | read => rfl
  | setDefaultAlignment | setAlignment | setSizing | setMinimum | setWeight => cases h

/-- The builder holds what the calls have set. -/
structure Collects (default : Alignment) (calls : List Call) (b : TrackBuilder) : Prop where
  default_eq : b.defaultAlignment = default
  alignment_eq : b.alignment = lastOf Call.alignment? calls
  sizing_eq : b.sizing = lastOf Call.sizing? calls
  fault_eq : b.fault = calls.findSome? Call.fault?
  minimum_eq : b.fault = none → b.minimum.map Subtype.val = lastOf Call.minimum? calls
  weight_eq : b.fault = none → (b.weight.val : Int) = (lastOf Call.weight? calls).getD 0

theorem collects_new (default : Alignment) : Collects default [] (new default) :=
  ⟨rfl, rfl, rfl, rfl, fun _ => rfl, fun _ => rfl⟩

theorem Collects.concat (h : Collects default calls b) {call : Call} {b' : TrackBuilder}
    (hadds : b.Adds call b') :
    Collects (call.default?.getD default) (calls ++ [call]) b' := by
  -- a builder without a fault had none before the call
  have hearlier (hnone : b'.fault = none) : b.fault = none := by
    rw [hadds.fault_eq, Option.or_eq_none_iff] at hnone
    exact hnone.1
  constructor
  · rw [hadds.default_eq, h.default_eq]
  · rw [hadds.alignment_eq, h.alignment_eq, lastOf_concat]
  · rw [hadds.sizing_eq, h.sizing_eq, lastOf_concat]
  · rw [hadds.fault_eq, h.fault_eq, List.findSome?_append, List.findSome?_singleton]
  · intro hnone
    rw [hadds.minimum_eq hnone, h.minimum_eq (hearlier hnone), lastOf_concat]
  · intro hnone
    rw [hadds.weight_eq hnone, h.weight_eq (hearlier hnone), lastOf_concat, Option.getD_or]

/-- **The invariant of all calls**: a builder holds what was set since it was started anew. -/
theorem collects_foldl (default : Alignment) (calls : List Call) :
    Collects ((lastOf Call.default? calls).getD default) (since Call.startsAnew calls)
      (calls.foldl step (new default)) := by
  induction calls using List.reverseRecOn with
  | nil => exact collects_new default
  | append_singleton calls call ih =>
    rw [List.foldl_concat]
    cases hanew : call.startsAnew with
    | false =>
      have hcollects := ih.concat (adds_step _ hanew)
      rwa [← since_concat_of_not hanew, ← Option.getD_or, ← lastOf_concat] at hcollects
    | true =>
      have hdefault : call.default? = none := by
        cases call <;> first | rfl | cases hanew
      rw [since_concat_of_startsAnew hanew, step_of_startsAnew _ hanew, ih.default_eq,
        lastOf_concat, hdefault, Option.none_or]
      exact collects_new _

/-- What a builder creates is what the calls are worth. -/
theorem Collects.creates (h : Collects default calls b) : Creates default calls b.build := by
  unfold build
  rcases hfault : b.fault with _ | fault
  · have hfaultless : ∀ call ∈ calls, call.fault? = none :=
      List.findSome?_eq_none_iff.1 (h.fault_eq.symm.trans hfault)
    have hminimum := h.minimum_eq hfault
    simp only
    split
    · next hnone =>
      rw [Bool.and_eq_true, Option.isNone_iff_eq_none, Option.isNone_iff_eq_none] at hnone
      refine .noSize hfaultless (not_setsSize_iff.2 ⟨?_, ?_⟩)
      · rw [← h.sizing_eq, hnone.1]
      · rw [← hminimum, hnone.2, Option.map_none]
    · next hsome =>
      refine .track hfaultless ?_ ?_ ?_ ?_ (h.weight_eq hfault)
      · by_contra hall
        obtain ⟨hsizing, hleast⟩ := not_setsSize_iff.1 fun call hcall hsets =>
          hall ⟨call, hcall, hsets⟩
        rw [← h.sizing_eq] at hsizing
        rw [← hminimum, Option.map_eq_none_iff] at hleast
        simp [hsizing, hleast] at hsome
      · rw [← h.alignment_eq, ← h.default_eq]
      · rw [← h.sizing_eq]
      · rw [← hminimum]
        exact (Option.getD_map Subtype.val LeastSize.zero b.minimum).symm
  · obtain ⟨before, call, after, hcalls, hcall, hbefore⟩ :=
      List.findSome?_eq_some_iff.1 (h.fault_eq.symm.trans hfault)
    exact .refused hcalls hcall hbefore

/-- **What a builder creates**, after any calls, is what the calls are worth since it was last
started anew, in the default alignment that was set last; and it goes on as a builder with nothing
but that alignment. -/
theorem create_exact (default : Alignment) (calls : List Call) :
    let b := calls.foldl step (new default)
    let default' := (lastOf Call.default? calls).getD default
    (∀ result, b.create.1 = result ↔ Creates default' (since Call.startsAnew calls) result) ∧
      b.create.2 = new default' := by
  intro b default'
  have hcollects : Collects default' (since Call.startsAnew calls) b := collects_foldl default calls
  refine ⟨fun result => ⟨?_, hcollects.creates.unique⟩, ?_⟩
  · rintro rfl
    exact hcollects.creates
  · exact congrArg new hcollects.default_eq

/-- The first value out of range is reported although a valid one follows, and it is forgotten by
the next track. -/
example :
    let calls : List Call := [.setSizing .preferred, .setWeight 101, .setMinimum (.pixels (-1)),
      .setWeight 5]
    let b := calls.foldl step forRows
    b.create.1 = .error (.argument (.weightOutOfRange 101)) ∧
      (b.create.2.setSizing .preferred).create.1 = .ok .defaultRow := by
  decide +kernel

end TrackBuilder

end GridLayout

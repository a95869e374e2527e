import Mathlib.Algebra.Ring.Nat
import GridLayout.Placement.Builder
import GridLayout.Proofs.Steps

/-!
# What a placement builder creates

A builder can be called in any order and used for one placement after another. What it creates
depends on the calls since it was last started anew and on the placement that it created last, which
is all that stays: a failure does not move the place where the next component is put. So components
that are put one after another fill a row without gaps, whatever fails in between.

* `PlacementBuilder.Call`: what can be asked of a builder, `PlacementBuilder.step`: the builder
  after it, and `PlacementBuilder.created`: the placements that a sequence of calls creates.
* `PlacementBuilder.Collects` is the invariant: what a builder holds of the calls.
* `PlacementBuilder.Creates` says what calls are worth.
* `PlacementBuilder.FillsRow`: placements side by side in one row.
* `PlacementBuilder.creates_and_remembers`: all of it for any sequence of calls.
-/

namespace GridLayout

namespace PlacementBuilder

/-! ## Calls -/

/-- What can be asked of a builder. -/
inductive Call where
  | setPosition (column row : Nat)
  | afterPrevious
  | setSpan (axis : Axis) (span : Nat)
  | setSpans (columns rows : Nat)
  | setTarget (axis : Axis) (target : Nat)
  | setOverride (axis : Axis) (track : Track)
  | reset
  | create
  | createAt (column row : Nat)

/-- The builder after a call. -/
def step (b : PlacementBuilder) : Call → PlacementBuilder
  | .setPosition column row => b.setPosition column row
  | .afterPrevious => b.afterPrevious
  | .setSpan axis span => b.setSpan axis span
  | .setSpans columns rows => (b.setSpan .horizontal columns).setSpan .vertical rows
  | .setTarget axis target => b.setTarget axis target
  | .setOverride axis track => b.setOverride axis track
  | .reset => b.reset
  | .create => b.create.2
  | .createAt column row => (b.createAt column row).2

/-- The placement that a call creates, if it does. -/
def made? (b : PlacementBuilder) : Call → Option Placement
  | .create => b.create.1.toOption
  | .createAt column row => (b.createAt column row).1.toOption
  | _ => none

/-- The placements that the calls create, one after another. -/
def created (b : PlacementBuilder) : List Call → List Placement
  | [] => []
  | call :: calls => (b.made? call).toList ++ created (b.step call) calls

namespace Call

/-- The call leaves nothing set, also when it fails. -/
def startsAnew : Call → Bool
  | reset | create | createAt .. => true
  | setPosition .. | afterPrevious | setSpan .. | setSpans .. | setTarget .. | setOverride .. =>
    false

/-- The cell that is asked for after the placement created last. -/
def position? (previous : Option Placement) : Call → Option (Nat × Nat)
  | setPosition column row => some (column, row)
  | afterPrevious => some (nextCell previous)
  | _ => none

/-- The span that is asked for along an axis, empty or not. -/
def span? (axis : Axis) : Call → Option Nat
  | setSpan axis' span => if axis = axis' then some span else none
  | setSpans columns rows => some ((PerAxis.mk columns rows).along axis)
  | _ => none

def target? (axis : Axis) : Call → Option Nat
  | setTarget axis' target => if axis = axis' then some target else none
  | _ => none

def override? (axis : Axis) : Call → Option Track
  | setOverride axis' track => if axis = axis' then some track else none
  | _ => none

/-- The call asks for an empty span. -/
def isEmptySpan : Call → Bool
  | setSpan _ span => span == 0
  | setSpans columns rows => columns == 0 || rows == 0
  | _ => false

end Call

/-! ## What calls are worth -/

/-- What is created of the calls since a builder was started anew, after the placement that it
created last. -/
inductive Creates (previous : Option Placement) (calls : List Call) :
    Except LayoutError Placement → Prop
  | emptySpan :
    (∃ call ∈ calls, call.isEmptySpan = true) →
    Creates previous calls (.error (.argument .emptySpan))
  | noPosition :
    (∀ call ∈ calls, call.isEmptySpan = false) →
    (∀ call ∈ calls, call.position? previous = none) →
    Creates previous calls (.error (.state .noPosition))
  | placement {p : Placement} :
    (∀ call ∈ calls, call.isEmptySpan = false) →
    lastOf (Call.position? previous) calls = some p.corner →
    (∀ axis, (p.along axis).span = (lastOf (Call.span? axis) calls).getD 1) →
    (∀ axis, (p.along axis).target = lastOf (Call.target? axis) calls) →
    (∀ axis, (p.along axis).override = lastOf (Call.override? axis) calls) →
    Creates previous calls (.ok p)

variable {previous : Option Placement} {calls : List Call} {b : PlacementBuilder}

/-- Only one thing is created of the same calls. -/
theorem Creates.unique {result result' : Except LayoutError Placement}
    (h : Creates previous calls result) (h' : Creates previous calls result') :
    result = result' := by
  have hclash (hempty : ∃ call ∈ calls, call.isEmptySpan = true)
      (hnone : ∀ call ∈ calls, call.isEmptySpan = false) : False := by
    obtain ⟨call, hcall, hspan⟩ := hempty
    exact absurd hspan (by simp [hnone call hcall])
  cases h with
  | emptySpan hempty =>
    cases h' with
    | emptySpan => rfl
    | noPosition hnone | placement hnone => exact (hclash hempty hnone).elim
  | noPosition hnone hunset =>
    cases h' with
    | emptySpan hempty => exact (hclash hempty hnone).elim
    | noPosition => rfl
    | placement _ hposition =>
      rw [lastOf_eq_none_iff.2 hunset] at hposition
      cases hposition
  | @placement p hnone hposition hspan htarget hoverride =>
    cases h' with
    | emptySpan hempty => exact (hclash hempty hnone).elim
    | noPosition _ hunset =>
      rw [lastOf_eq_none_iff.2 hunset] at hposition
      cases hposition
    | @placement p' _ hposition' hspan' htarget' hoverride' =>
      obtain ⟨hcolumn, hrow⟩ := Prod.mk.inj (Option.some.inj (hposition.symm.trans hposition'))
      have hstart (axis : Axis) : (p.along axis).start = (p'.along axis).start := by
        cases axis with
        | horizontal => exact hcolumn
        | vertical => exact hrow
      have hfields {s s' : Slot} (hstart : s.start = s'.start) (hspan : s.span = s'.span)
          (htarget : s.target = s'.target) (hoverride : s.override = s'.override) : s = s' := by
        cases s
        cases s'
        simp_all only
      refine congrArg Except.ok (PerAxis.eq_of_along_eq fun axis => hfields (hstart axis) ?_ ?_ ?_)
      · rw [hspan, hspan']
      · rw [htarget, htarget']
      · rw [hoverride, hoverride']

/-! ## What a builder holds -/

/-- What a call that does not start anew does to a builder: it sets properties, or is the first to
ask for an empty span. The spans of a builder with a fault mean nothing. -/
structure Adds (b : PlacementBuilder) (call : Call) (b' : PlacementBuilder) : Prop where
  previous_eq : b'.previous = b.previous
  position_eq : b'.position = (call.position? b.previous).or b.position
  fault_eq : b'.fault = b.fault.or (if call.isEmptySpan then some .emptySpan else none)
  span_eq : b'.fault = none → ∀ axis,
    b'.spans.along axis = (call.span? axis).getD (b.spans.along axis)
  target_eq : ∀ axis, b'.targets.along axis = (call.target? axis).or (b.targets.along axis)
  override_eq : ∀ axis, b'.overrides.along axis = (call.override? axis).or (b.overrides.along axis)

theorem adds_setSpan (b : PlacementBuilder) (axis : Axis) (span : Nat) :
    b.Adds (.setSpan axis span) (b.setSpan axis span) := by
  by_cases hspan : span = 0
  · have hrefused : b.setSpan axis span = { b with fault := b.fault.or (some .emptySpan) } :=
      if_pos hspan
    have hempty : (Call.setSpan axis span).isEmptySpan = true := beq_iff_eq.2 hspan
    rw [hrefused]
    refine ⟨rfl, rfl, by rw [hempty]; rfl, fun hnone => ?_, fun _ => rfl, fun _ => rfl⟩
    simp at hnone
  · have hset : b.setSpan axis span = { b with spans := b.spans.modify axis fun _ => span } :=
      if_neg hspan
    have hvalid : (Call.setSpan axis span).isEmptySpan = false := beq_eq_false_iff_ne.2 hspan
    rw [hset]
    refine ⟨rfl, rfl, by simp [hvalid], fun _ axis' => ?_, fun _ => rfl, fun _ => rfl⟩
    simp only [PerAxis.along_modify, Call.span?]
    split <;> rfl

theorem adds_step (b : PlacementBuilder) {call : Call} (hkeeps : call.startsAnew = false) :
    b.Adds call (b.step call) := by
  cases call with
  | reset | create | createAt => cases hkeeps
  | setPosition | afterPrevious =>
    exact ⟨rfl, rfl, (Option.or_none).symm, fun _ _ => rfl, fun _ => rfl, fun _ => rfl⟩
  | setTarget axis target =>
    refine ⟨rfl, rfl, (Option.or_none).symm, fun _ _ => rfl, fun axis' => ?_, fun _ => rfl⟩
    simp only [step, setTarget, PerAxis.along_modify, Call.target?]
    split <;> rfl
  | setOverride axis track =>
    refine ⟨rfl, rfl, (Option.or_none).symm, fun _ _ => rfl, fun _ => rfl, fun axis' => ?_⟩
    simp only [step, setOverride, PerAxis.along_modify, Call.override?]
    split <;> rfl
  | setSpan axis span => exact b.adds_setSpan axis span
  | setSpans columns rows =>
    have hx := b.adds_setSpan .horizontal columns
    have hy := (b.setSpan .horizontal columns).adds_setSpan .vertical rows
    refine ⟨hy.previous_eq.trans hx.previous_eq, hy.position_eq.trans hx.position_eq, ?_,
      fun hnone axis => ?_, fun axis => (hy.target_eq axis).trans (hx.target_eq axis),
      fun axis => (hy.override_eq axis).trans (hx.override_eq axis)⟩
    · refine hy.fault_eq.trans ?_
      rw [hx.fault_eq, Option.or_assoc]
      cases hcolumns : columns == 0 <;> simp [Call.isEmptySpan, hcolumns]
    · have hrows := hy.span_eq hnone axis
      have hearlier : (b.setSpan .horizontal columns).fault = none :=
        (Option.or_eq_none_iff.1 (hy.fault_eq.symm.trans hnone)).1
      rw [hx.span_eq hearlier] at hrows
      cases axis <;> exact hrows

/-- A call that starts anew leaves nothing but the placement created last. -/
theorem step_of_startsAnew (b : PlacementBuilder) {call : Call} (h : call.startsAnew = true) :
    b.step call = after ((b.made? call).or b.previous) := by
  have hcreate (b : PlacementBuilder) : b.create.2 = after (b.create.1.toOption.or b.previous) := by
    unfold create
    cases b.build <;> rfl
  cases call with
  | reset => rfl
  | create => exact hcreate b
  | createAt column row => exact hcreate (b.setPosition column row)
  | setPosition | afterPrevious | setSpan | setSpans | setTarget | setOverride => cases h

/-- The other calls create nothing. -/
theorem made?_of_not (b : PlacementBuilder) {call : Call} (h : call.startsAnew = false) :
    b.made? call = none := by
  cases call with
  | reset | create | createAt => cases h
  | setPosition | afterPrevious | setSpan | setSpans | setTarget | setOverride => rfl

/-- The builder holds what the calls have set. -/
structure Collects (previous : Option Placement) (calls : List Call) (b : PlacementBuilder) :
    Prop where
  previous_eq : b.previous = previous
  position_eq : b.position = lastOf (Call.position? previous) calls
  fault_eq : b.fault = if calls.any Call.isEmptySpan then some .emptySpan else none
  span_eq : b.fault = none → ∀ axis,
    b.spans.along axis = (lastOf (Call.span? axis) calls).getD 1
  target_eq : ∀ axis, b.targets.along axis = lastOf (Call.target? axis) calls
  override_eq : ∀ axis, b.overrides.along axis = lastOf (Call.override? axis) calls

theorem collects_after (previous : Option Placement) : Collects previous [] (after previous) :=
  ⟨rfl, rfl, rfl, fun _ => PerAxis.along_both 1, PerAxis.along_both none, PerAxis.along_both none⟩

theorem Collects.concat (h : Collects previous calls b) {call : Call} {b' : PlacementBuilder}
    (hadds : b.Adds call b') : Collects previous (calls ++ [call]) b' := by
  -- a builder without a fault had none before the call
  have hearlier (hnone : b'.fault = none) : b.fault = none := by
    rw [hadds.fault_eq, Option.or_eq_none_iff] at hnone
    exact hnone.1
  constructor
  · rw [hadds.previous_eq, h.previous_eq]
  · rw [hadds.position_eq, h.previous_eq, h.position_eq, lastOf_concat]
  · rw [hadds.fault_eq, h.fault_eq]
    cases hany : calls.any Call.isEmptySpan <;> simp [hany]
  · intro hnone axis
    rw [hadds.span_eq hnone, h.span_eq (hearlier hnone), lastOf_concat, Option.getD_or]
  · intro axis
    rw [hadds.target_eq, h.target_eq, lastOf_concat]
  · intro axis
    rw [hadds.override_eq, h.override_eq, lastOf_concat]

theorem created_append (b : PlacementBuilder) (calls calls' : List Call) :
    created b (calls ++ calls') = created b calls ++ created (calls.foldl step b) calls' := by
  induction calls generalizing b with
  | nil => rfl
  | cons call calls ih => simp [created, ih]

/-- **The invariant of all calls**: a builder holds what was set since it was started anew, and the
placement that was created last. -/
theorem collects_foldl (previous : Option Placement) (calls : List Call) :
    Collects ((created (after previous) calls).getLast?.or previous)
      (since Call.startsAnew calls) (calls.foldl step (after previous)) := by
  induction calls using List.reverseRecOn with
  | nil => exact collects_after previous
  | append_singleton calls call ih =>
    rw [List.foldl_concat, created_append]
    cases hanew : call.startsAnew with
    | false =>
      simp only [created, made?_of_not _ hanew, Option.toList_none, List.append_nil]
      rw [since_concat_of_not hanew]
      exact ih.concat (adds_step _ hanew)
    | true =>
      rw [since_concat_of_startsAnew hanew, step_of_startsAnew _ hanew, ih.previous_eq]
      cases hmade : (calls.foldl step (after previous)).made? call <;>
        simpa [created, hmade] using collects_after _

/-- What a builder creates is what the calls are worth. -/
theorem Collects.creates (h : Collects previous calls b) : Creates previous calls b.build := by
  have hfaultless (hnone : b.fault = none) : ∀ call ∈ calls, call.isEmptySpan = false := by
    have hany := h.fault_eq.symm.trans hnone
    simpa using hany
  unfold build
  rcases hfault : b.fault with _ | fault
  · rcases hposition : b.position with _ | ⟨column, row⟩
    · exact .noPosition (hfaultless hfault)
        (lastOf_eq_none_iff.1 (h.position_eq.symm.trans hposition))
    · refine .placement (hfaultless hfault) (h.position_eq.symm.trans hposition) ?_ ?_ ?_
      · intro axis
        rw [← h.span_eq hfault]
        cases axis <;> rfl
      · intro axis
        rw [← h.target_eq]
        cases axis <;> rfl
      · intro axis
        rw [← h.override_eq]
        cases axis <;> rfl
  · have hany := h.fault_eq.symm.trans hfault
    simp only [Option.ite_none_right_eq_some, List.any_eq_true, Option.some.injEq] at hany
    obtain ⟨hempty, rfl⟩ := hany
    exact .emptySpan hempty

theorem create_fst (b : PlacementBuilder) : b.create.1 = b.build := by
  unfold create
  cases b.build <;> rfl

/-- A builder that was just started anew holds nothing but the placement created last. -/
theorem Collects.eq_after (h : Collects previous [] b) : b = after previous := by
  obtain ⟨hprevious, hposition, hfault, hspan, htarget, hoverride⟩ := h
  have hspans : b.spans = .both 1 :=
    PerAxis.eq_of_along_eq fun axis => (hspan hfault axis).trans (PerAxis.along_both 1 axis).symm
  have htargets : b.targets = .both none :=
    PerAxis.eq_of_along_eq fun axis => (htarget axis).trans (PerAxis.along_both none axis).symm
  have hoverrides : b.overrides = .both none :=
    PerAxis.eq_of_along_eq fun axis => (hoverride axis).trans (PerAxis.along_both none axis).symm
  cases b
  simp_all [after]

/-! ## Side by side -/

/-- The builders fail alike, whatever placements they remember. -/
structure FailsLike (b b' : PlacementBuilder) : Prop where
  fault_eq : b.fault = b'.fault
  position_isSome_eq : b.position.isSome = b'.position.isSome

variable {b' : PlacementBuilder}

theorem isSome_toOption_build (b : PlacementBuilder) :
    b.build.toOption.isSome = (b.fault.isNone && b.position.isSome) := by
  unfold build
  cases b.fault with
  | some fault => rfl
  | none =>
    cases b.position with
    | none => rfl
    | some cell => rfl

theorem FailsLike.create_isSome_eq (h : FailsLike b b') :
    b.create.1.toOption.isSome = b'.create.1.toOption.isSome := by
  rw [create_fst, create_fst, isSome_toOption_build, isSome_toOption_build, h.fault_eq,
    h.position_isSome_eq]

theorem FailsLike.made?_isSome_eq (h : FailsLike b b') (call : Call) :
    (b.made? call).isSome = (b'.made? call).isSome := by
  cases call with
  | create => exact h.create_isSome_eq
  | createAt column row =>
    have halike : FailsLike (b.setPosition column row) (b'.setPosition column row) :=
      ⟨h.fault_eq, rfl⟩
    exact halike.create_isSome_eq
  | reset | setPosition | afterPrevious | setSpan | setSpans | setTarget | setOverride => rfl

theorem FailsLike.step (h : FailsLike b b') (call : Call) :
    FailsLike (b.step call) (b'.step call) := by
  cases hanew : call.startsAnew with
  | true =>
    rw [step_of_startsAnew b hanew, step_of_startsAnew b' hanew]
    exact ⟨rfl, rfl⟩
  | false =>
    have hadds := adds_step b hanew
    have hadds' := adds_step b' hanew
    refine ⟨?_, ?_⟩
    · rw [hadds.fault_eq, hadds'.fault_eq, h.fault_eq]
    · rw [hadds.position_eq, hadds'.position_eq, Option.isSome_or, Option.isSome_or,
        h.position_isSome_eq]
      cases call <;> rfl

/-- Calls create something or nothing, whatever placement was created before them. -/
theorem FailsLike.created_eq_nil_iff (h : FailsLike b b') (calls : List Call) :
    created b calls = [] ↔ created b' calls = [] := by
  induction calls generalizing b b' with
  | nil => rfl
  | cons call calls ih =>
    have hmade := h.made?_isSome_eq call
    simp only [created, List.append_eq_nil_iff, ih (h.step call)]
    cases hb : b.made? call <;> cases hb' : b'.made? call <;> simp_all

/-- Calls that create nothing, though they may try, and leave nothing set. -/
structure IsDetour (calls : List Call) : Prop where
  created_eq : created new calls = []
  since_eq : since Call.startsAnew calls = []

theorem IsDetour.created_after (h : IsDetour calls) (previous : Option Placement) :
    created (after previous) calls = [] := by
  have halike : FailsLike (after previous) new := ⟨rfl, rfl⟩
  exact (halike.created_eq_nil_iff calls).2 h.created_eq

/-- The place of the next component is where it was. -/
theorem IsDetour.foldl_after (h : IsDetour calls) (previous : Option Placement) :
    calls.foldl step (after previous) = after previous := by
  have hcollects := collects_foldl previous calls
  rw [h.created_after, h.since_eq] at hcollects
  exact hcollects.eq_after

/-- Create a component with so many columns right of the one created last. -/
def Call.next (columns : Nat) : List Call :=
  [.afterPrevious, .setSpan .horizontal columns, .create]

/-- The placement of so many columns that starts in a cell. -/
def rowOf (cell : Nat × Nat) (columns : Nat) : Placement :=
  ⟨⟨cell.1, columns, none, none⟩, .single cell.2⟩

theorem build_next (previous : Option Placement) {columns : Nat} (h : 0 < columns) :
    (((after previous).afterPrevious).setSpan .horizontal columns).build =
      .ok (rowOf (nextCell previous) columns) := by
  rw [setSpan, if_neg h.ne']
  rfl

theorem created_next (previous : Option Placement) {columns : Nat} (h : 0 < columns) :
    created (after previous) (Call.next columns) = [rowOf (nextCell previous) columns] := by
  simp only [Call.next, created, made?, step, create_fst, build_next previous h]
  rfl

theorem foldl_next (previous : Option Placement) {columns : Nat} (h : 0 < columns) :
    (Call.next columns).foldl step (after previous) =
      after (some (rowOf (nextCell previous) columns)) := by
  simp only [Call.next, List.foldl, step, create, build_next previous h]

/-- Placements of the given spans side by side from a cell on, in one row. -/
structure FillsRow (cell : Nat × Nat) (spans : List Nat) (placements : List Placement) : Prop where
  spans_eq : placements.map (fun p => p.horizontal.span) = spans
  row_eq : ∀ p ∈ placements, p.vertical = .single cell.2
  columns_eq : placements.flatMap (fun p => List.range' p.horizontal.start p.horizontal.span) =
    List.range' cell.1 spans.sum
  disjoint : placements.Pairwise fun p q => p.horizontal.stop ≤ q.horizontal.start

theorem fillsRow_nil (cell : Nat × Nat) : FillsRow cell [] [] :=
  ⟨rfl, by simp, rfl, .nil⟩

theorem FillsRow.le_start {cell : Nat × Nat} {spans : List Nat} {placements : List Placement}
    (h : FillsRow cell spans placements) (hspans : ∀ span ∈ spans, 0 < span) :
    ∀ p ∈ placements, cell.1 ≤ p.horizontal.start := by
  intro p hp
  have hpos : 0 < p.horizontal.span := hspans _ (h.spans_eq ▸ List.mem_map_of_mem hp)
  have hmem : p.horizontal.start ∈ List.range' cell.1 spans.sum := by
    rw [← h.columns_eq]
    exact List.mem_flatMap.2 ⟨p, hp, List.mem_range'_1.2 (by omega)⟩
  exact (List.mem_range'_1.1 hmem).1

theorem FillsRow.cons {cell : Nat × Nat} {columns : Nat} {spans : List Nat}
    {placements : List Placement} (hspans : ∀ span ∈ spans, 0 < span)
    (h : FillsRow (cell.1 + columns, cell.2) spans placements) :
    FillsRow cell (columns :: spans) (rowOf cell columns :: placements) := by
  refine ⟨?_, ?_, ?_, List.pairwise_cons.2 ⟨h.le_start hspans, h.disjoint⟩⟩
  · rw [List.map_cons, h.spans_eq]
    rfl
  · exact List.forall_mem_cons.2 ⟨rfl, h.row_eq⟩
  · rw [List.flatMap_cons, h.columns_eq, List.sum_cons, ← List.range'_append_1]
    rfl

/-- Components that are put one after another fill a row, whatever fails in between. -/
theorem fillsRow_links (previous : Option Placement) {links : List (List Call × Nat)}
    (hlinks : ∀ link ∈ links, IsDetour link.1 ∧ 0 < link.2) :
    FillsRow (nextCell previous) (links.map Prod.snd)
      (created (after previous) (links.flatMap fun link => link.1 ++ Call.next link.2)) := by
  induction links generalizing previous with
  | nil => exact fillsRow_nil _
  | cons link links ih =>
    obtain ⟨⟨hdetour, hpos⟩, hrest⟩ := List.forall_mem_cons.1 hlinks
    rw [List.flatMap_cons, created_append, created_append, List.foldl_append,
      hdetour.created_after, hdetour.foldl_after, created_next previous hpos,
      foldl_next previous hpos]
    have hspans : ∀ span ∈ links.map Prod.snd, 0 < span := by
      rintro span hspan
      obtain ⟨link, hlink, rfl⟩ := List.mem_map.1 hspan
      exact (hrest link hlink).2
    exact (ih (some (rowOf (nextCell previous) link.2)) hrest).cons hspans

/-- **What a builder creates and remembers**, after any calls. What it creates is what the calls are
worth since it was last started anew, after the placement that it created last. What starts it anew
leaves nothing but that placement, or the one that it creates. Components that are then put one
after another fill a row from the cell after that placement on, although there are failures in
between. -/
theorem creates_and_remembers (calls : List Call) :
    let b := calls.foldl step new
    let previous := (created new calls).getLast?
    let current := since Call.startsAnew calls
    (∀ result, b.create.1 = result ↔ Creates previous current result) ∧
      (∀ column row result, (b.createAt column row).1 = result ↔
        Creates previous (current ++ [.setPosition column row]) result) ∧
      (∀ call : Call, call.startsAnew = true →
        b.step call = after ((b.made? call).or previous)) ∧
      ∀ links : List (List Call × Nat), (∀ link ∈ links, IsDetour link.1 ∧ 0 < link.2) →
        FillsRow (nextCell previous) (links.map Prod.snd)
          (created b.reset (links.flatMap fun link => link.1 ++ Call.next link.2)) := by
  intro b previous current
  have hcollects : Collects previous current b := by
    have hinvariant := collects_foldl none calls
    rwa [Option.or_none] at hinvariant
  have hcreates {calls : List Call} {b : PlacementBuilder} (h : Collects previous calls b)
      (result : Except LayoutError Placement) :
      b.create.1 = result ↔ Creates previous calls result := by
    rw [create_fst]
    constructor
    · rintro rfl
      exact h.creates
    · exact h.creates.unique
  refine ⟨hcreates hcollects, fun column row => ?_, fun call hanew => ?_, fun links hlinks => ?_⟩
  · have hkeeps : (Call.setPosition column row).startsAnew = false := rfl
    exact hcreates (hcollects.concat (adds_step b hkeeps))
  · rw [step_of_startsAnew b hanew, hcollects.previous_eq]
  · rw [reset, hcollects.previous_eq]
    exact fillsRow_links previous hlinks

/-- An empty span is refused twice, and the components stay side by side. -/
theorem fillsRow_despite_failures :
    let calls : List Call := [.createAt 2 1, .setSpan .horizontal 0, .create]
    let detour : List Call := [.afterPrevious, .setSpan .horizontal 0, .create]
    let placements := created (calls.foldl step new).reset
      ([([], 2), (detour, 3)].flatMap fun link => link.1 ++ Call.next link.2)
    placements = [rowOf (3, 1) 2, rowOf (5, 1) 3] ∧ FillsRow (3, 1) [2, 3] placements := by
  intro calls detour placements
  have hdetour : IsDetour detour := ⟨by decide, by decide⟩
  have hlinks : ∀ link ∈ [([], 2), (detour, 3)], IsDetour link.1 ∧ 0 < link.2 :=
    List.forall_mem_cons.2 ⟨⟨⟨rfl, rfl⟩, by decide⟩,
      List.forall_mem_singleton.2 ⟨hdetour, by decide⟩⟩
  exact ⟨by decide, (creates_and_remembers calls).2.2.2 _ hlinks⟩

end PlacementBuilder

end GridLayout

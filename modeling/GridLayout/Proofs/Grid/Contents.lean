import Mathlib.Data.List.Basic
import GridLayout.Grid.Basic

/-!
# What a grid is made of

The lengths in a grid are the least sizes of its tracks and of the tracks that its components bring
along. The numbers in it are the members of its groups, the names of its components and the cells
that these cover.

* `Grid.lengths` and `Grid.numbers` list them.
* `Grid.forall_mem_lengths` and `Grid.forall_mem_numbers`: what holds of all of them, part by part.
-/

namespace GridLayout

namespace PerAxis

variable {α : Type}

/-- The values along the two axes. -/
def toList (p : PerAxis α) : List α := [p.horizontal, p.vertical]

theorem forall_mem_toList {p : PerAxis α} {P : α → Prop} :
    (∀ a ∈ p.toList, P a) ↔ ∀ axis, P (p.along axis) := by
  constructor
  · intro h axis
    cases axis
    · exact h _ (by simp [toList, along])
    · exact h _ (by simp [toList, along])
  · intro h a ha
    simp only [toList, List.mem_cons, List.not_mem_nil, or_false] at ha
    rcases ha with rfl | rfl
    · exact h .horizontal
    · exact h .vertical

end PerAxis

/-! ## Lengths -/

def Lane.lengths (lane : Lane) : List Length := lane.tracks.map Track.minimum

def Slot.lengths (slot : Slot) : List Length := (slot.override.map Track.minimum).toList

def Entry.lengths (e : Entry) : List Length := e.placement.toList.flatMap Slot.lengths

/-- The least sizes of the tracks of the grid and of its components. -/
def Grid.lengths (g : Grid) : List Length :=
  g.lanes.toList.flatMap Lane.lengths ++ g.components.flatMap Entry.lengths

/-! ## Numbers -/

def Lane.numbers (lane : Lane) : List Nat := lane.groups.flatMap TrackGroup.indices

def Slot.numbers (slot : Slot) : List Nat := slot.start :: slot.span :: slot.target.toList

def Entry.numbers (e : Entry) : List Nat := e.id.value :: e.placement.toList.flatMap Slot.numbers

/-- The members of the groups of the grid, and the names and the cells of its components. -/
def Grid.numbers (g : Grid) : List Nat :=
  g.lanes.toList.flatMap Lane.numbers ++ g.components.flatMap Entry.numbers

/-! ## Part by part -/

theorem Slot.forall_mem_lengths {slot : Slot} {P : Length → Prop} :
    (∀ l ∈ slot.lengths, P l) ↔ ∀ track, slot.override = some track → P track.minimum := by
  rcases hoverride : slot.override with _ | track <;> simp [lengths, hoverride]

theorem Slot.forall_mem_numbers {slot : Slot} {P : Nat → Prop} :
    (∀ n ∈ slot.numbers, P n) ↔
      P slot.start ∧ P slot.span ∧ ∀ target, slot.target = some target → P target := by
  rcases htarget : slot.target with _ | target <;> simp [numbers, htarget]

theorem Entry.forall_mem_lengths {e : Entry} {P : Length → Prop} :
    (∀ l ∈ e.lengths, P l) ↔ ∀ axis, ∀ l ∈ (e.placement.along axis).lengths, P l := by
  simp only [lengths, List.forall_mem_flatMap, PerAxis.forall_mem_toList]

theorem Entry.forall_mem_numbers {e : Entry} {P : Nat → Prop} :
    (∀ n ∈ e.numbers, P n) ↔
      P e.id.value ∧ ∀ axis, ∀ n ∈ (e.placement.along axis).numbers, P n := by
  simp only [numbers, List.forall_mem_cons, List.forall_mem_flatMap, PerAxis.forall_mem_toList]

theorem Grid.forall_mem_lengths {g : Grid} {P : Length → Prop} :
    (∀ l ∈ g.lengths, P l) ↔
      (∀ axis, ∀ track ∈ g.tracks axis, P track.minimum) ∧
        ∀ e ∈ g.components, ∀ l ∈ e.lengths, P l := by
  simp only [lengths, List.forall_mem_append, List.forall_mem_flatMap, PerAxis.forall_mem_toList,
    Lane.lengths, List.forall_mem_map, tracks]

theorem Grid.forall_mem_numbers {g : Grid} {P : Nat → Prop} :
    (∀ n ∈ g.numbers, P n) ↔
      (∀ axis, ∀ group ∈ g.groups axis, ∀ i ∈ group.indices, P i) ∧
        ∀ e ∈ g.components, ∀ n ∈ e.numbers, P n := by
  simp only [numbers, List.forall_mem_append, List.forall_mem_flatMap, PerAxis.forall_mem_toList,
    Lane.numbers, groups]

end GridLayout

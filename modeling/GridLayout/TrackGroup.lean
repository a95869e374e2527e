import GridLayout.Error
import GridLayout.Text.Basic

/-!
# Groups of tracks of one size

A group names at least two tracks of an axis by their indices. The indices are kept in ascending
order, so two groups are equal exactly if they have the same members.

* `TrackGroup.ofList` makes a group of indices in any order.
* `TrackGroup.apply` gives all members the size of the largest one.
-/

namespace GridLayout

structure TrackGroup where
  indices : List Nat
  two_le : 2 ≤ indices.length
  ascending : indices.Pairwise (· < ·)
deriving DecidableEq

namespace TrackGroup

/-- The first entry of a list that equals its successor. -/
def firstRepeated : List Nat → Option Nat
  | a :: b :: rest => if a = b then some a else firstRepeated (b :: rest)
  | _ => none

theorem pairwise_lt_of_firstRepeated {l : List Nat} (h : firstRepeated l = none)
    (sorted : l.Pairwise (· ≤ ·)) : l.Pairwise (· < ·) := by
  induction l with
  | nil => exact .nil
  | cons a l ih =>
    cases l with
    | nil => exact List.pairwise_singleton _ _
    | cons b l =>
      simp only [firstRepeated] at h
      split at h
      · cases h
      · next hne =>
        obtain ⟨ha, hb⟩ := List.pairwise_cons.1 sorted
        have hab : a < b := by have := ha b (by simp); omega
        refine List.pairwise_cons.2 ⟨fun c hc => ?_, ih h hb⟩
        rcases List.mem_cons.1 hc with rfl | hc
        · exact hab
        · have := (List.pairwise_cons.1 hb).1 c hc; omega

/-- Put an index into its place in an ascending list. -/
def insertIndex (index : Nat) : List Nat → List Nat
  | [] => [index]
  | i :: rest => if index ≤ i then index :: i :: rest else i :: insertIndex index rest

theorem mem_insertIndex {i index : Nat} {l : List Nat} :
    i ∈ insertIndex index l ↔ i = index ∨ i ∈ l := by
  induction l with
  | nil => simp [insertIndex]
  | cons j l ih =>
    simp only [insertIndex]
    split
    · simp
    · simp only [List.mem_cons, ih]
      constructor <;> rintro (h | h | h) <;> simp [h]

theorem pairwise_insertIndex {index : Nat} {l : List Nat} (h : l.Pairwise (· ≤ ·)) :
    (insertIndex index l).Pairwise (· ≤ ·) := by
  induction l with
  | nil => exact List.pairwise_singleton _ _
  | cons j l ih =>
    obtain ⟨hj, hl⟩ := List.pairwise_cons.1 h
    simp only [insertIndex]
    split
    · next hle =>
      refine List.pairwise_cons.2 ⟨fun i hi => ?_, h⟩
      rcases List.mem_cons.1 hi with rfl | hi
      · exact hle
      · exact Nat.le_trans hle (hj i hi)
    · next hlt =>
      refine List.pairwise_cons.2 ⟨fun i hi => ?_, ih hl⟩
      rcases mem_insertIndex.1 hi with rfl | hi
      · omega
      · exact hj i hi

/-- The indices in ascending order. -/
def sort (indices : List Nat) : List Nat := indices.foldr insertIndex []

theorem pairwise_sort (indices : List Nat) : (sort indices).Pairwise (· ≤ ·) := by
  induction indices with
  | nil => exact .nil
  | cons i indices ih => exact pairwise_insertIndex ih

/-- The group of the indices, which must be at least two and all different. -/
def ofList (indices : List Nat) : Except LayoutError TrackGroup :=
  let sorted := sort indices
  if two_le : 2 ≤ sorted.length then
    match h : firstRepeated sorted with
    | some index => .error (.argument (.repeatedIndex index))
    | none => .ok ⟨sorted, two_le, pairwise_lt_of_firstRepeated h (pairwise_sort indices)⟩
  else .error (.argument .fewIndices)

/-- The largest index. -/
def maxIndex (g : TrackGroup) : Nat := g.indices.getLastD 0

/-- The size of the largest member. -/
def largest (g : TrackGroup) (sizes : List Int) : Int :=
  ((g.indices.map fun i => sizes.getD i 0).max?).getD 0

/-- Give every member the size of the largest one; nothing if an index has no track. -/
def apply (g : TrackGroup) (sizes : List Int) : Except LayoutError (List Int) :=
  if g.maxIndex < sizes.length then
    .ok (g.indices.foldl (fun s i => s.set i (g.largest sizes)) sizes)
  else .error (.outOfBounds g.maxIndex sizes.length)

/-! ## Text -/

/-- The indices with commas between them. -/
def toText (g : TrackGroup) : String := ",".intercalate (g.indices.map toString)

/-- The characters between the indices of a group. -/
def isSeparator (c : Char) : Bool := c == ' ' || c == ',' || c == ';' || c == '/'

/-- Read the indices of a group in any order. -/
def ofText (s : String) : Except LayoutError TrackGroup := do
  let indices ← (Text.words isSeparator s.toList).mapM fun word =>
    match Text.natOfBits? 64 word with
    | some index => Except.ok index
    | none => .error (.unreadable s (.invalidIndex (String.ofList word)))
  ofList indices

end TrackGroup

end GridLayout

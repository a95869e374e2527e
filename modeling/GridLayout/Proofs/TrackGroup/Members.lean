import Mathlib.Data.List.Sort
import GridLayout.Grid.Arrangement
import GridLayout.Proofs.Steps
import GridLayout.Proofs.Text.Fields
import GridLayout.Proofs.Text.Numeral

/-!
# Groups as sets of indices

A group is a set of at least two indices. A list makes one if it names them without repetition, in
whatever order, and the group keeps nothing of the order.

* `TrackGroup.exists_ofList_iff`: which lists make a group.
* `TrackGroup.eq_iff_mem` and `TrackGroup.ofList_eq_iff`: groups are equal if they have the same
  members.
* `TrackGroup.ofList_indices` and `TrackGroup.ofText_toText`: a group is made again from its
  indices, and from its text.
-/

namespace GridLayout

namespace TrackGroup

/-! ## Sorting -/

theorem perm_insertIndex (i : Nat) (l : List Nat) : (insertIndex i l).Perm (i :: l) := by
  induction l with
  | nil => exact .refl _
  | cons j l ih =>
    simp only [insertIndex]
    split
    · exact .refl _
    · exact (ih.cons j).trans (.swap i j l)

theorem perm_sort (l : List Nat) : (sort l).Perm l := by
  induction l with
  | nil => exact .refl _
  | cons i l ih => exact (perm_insertIndex i (sort l)).trans (ih.cons i)

/-- Ascending indices have no repetition next to each other, nor anywhere else. -/
theorem firstRepeated_eq_none_iff {l : List Nat} (h : l.Pairwise (· ≤ ·)) :
    firstRepeated l = none ↔ l.Nodup := by
  constructor
  · intro hnone
    exact (pairwise_lt_of_firstRepeated hnone h).imp Nat.ne_of_lt
  · intro hnodup
    induction l with
    | nil => rfl
    | cons i l ih =>
      obtain ⟨hi, hrest⟩ := List.nodup_cons.1 hnodup
      cases l with
      | nil => rfl
      | cons j l =>
        have hne : i ≠ j := fun heq => hi (by simp [heq])
        exact (if_neg hne).trans (ih (List.pairwise_cons.1 h).2 hrest)

/-! ## Making groups -/

theorem indices_of_ofList {l : List Nat} {group : TrackGroup} (h : ofList l = .ok group) :
    group.indices = sort l := by
  unfold ofList at h
  simp only at h
  split at h
  · split at h
    · cases h
    · obtain rfl := Except.ok.inj h
      rfl
  · cases h

/-- A group of a list has the members of the list. -/
theorem mem_indices_of_ofList {l : List Nat} {group : TrackGroup} (h : ofList l = .ok group)
    {i : Nat} : i ∈ group.indices ↔ i ∈ l := by
  rw [indices_of_ofList h]
  exact (perm_sort l).mem_iff

/-- **A list makes a group** exactly if it has two entries or more and none of them twice. -/
theorem exists_ofList_iff {l : List Nat} :
    (∃ group, ofList l = .ok group) ↔ 2 ≤ l.length ∧ l.Nodup := by
  rw [← (perm_sort l).length_eq, ← (perm_sort l).nodup_iff,
    ← firstRepeated_eq_none_iff (pairwise_sort l)]
  unfold ofList
  simp only
  split
  · next htwo =>
    split
    · next hrepeated => simp [hrepeated]
    · next hnone => exact ⟨fun _ => ⟨htwo, hnone⟩, fun _ => ⟨_, rfl⟩⟩
  · next htwo => exact ⟨fun ⟨_, h⟩ => absurd h (by simp), fun h => absurd h.1 htwo⟩

/-- **Groups are sets**: they are equal if they have the same members. -/
theorem eq_iff_mem {a b : TrackGroup} : a = b ↔ ∀ i, i ∈ a.indices ↔ i ∈ b.indices := by
  constructor
  · rintro rfl i
    exact Iff.rfl
  · intro h
    have hindices : a.indices = b.indices := a.ascending.eq_of_mem_iff b.ascending h
    cases a
    cases b
    simpa using hindices

/-- Two lists make one group exactly if they have the same entries. -/
theorem ofList_eq_iff {l l' : List Nat} {a b : TrackGroup} (ha : ofList l = .ok a)
    (hb : ofList l' = .ok b) : a = b ↔ ∀ i, i ∈ l ↔ i ∈ l' := by
  rw [eq_iff_mem]
  simp only [mem_indices_of_ofList ha, mem_indices_of_ofList hb]

/-- The indices of a group make the same group. -/
theorem ofList_indices (group : TrackGroup) : ofList group.indices = .ok group := by
  obtain ⟨group', hgroup'⟩ :=
    exists_ofList_iff.2 ⟨group.two_le, group.ascending.imp Nat.ne_of_lt⟩
  rw [hgroup', eq_iff_mem.2 fun i => mem_indices_of_ofList hgroup']

/-! ## Text -/

/-- A digit is no separator. -/
theorem isSeparator_of_isDigit {c : Char} (h : c.isDigit = true) : isSeparator c = false := by
  have hc := Text.isDigit_iff.1 h
  simp only [isSeparator, Bool.or_eq_false_iff, beq_eq_false_iff_ne, ne_eq, ← Char.toNat_inj]
  simp
  omega

/-- The words of the text of a group are the digits of its indices. -/
theorem words_toText (group : TrackGroup) :
    Text.words isSeparator group.toText.toList = group.indices.map (Nat.toDigits 10) := by
  have htext : group.toText.toList = [','].intercalate (group.indices.map (Nat.toDigits 10)) := by
    simp [toText, String.toList_intercalate, Function.comp_def]
  rw [htext]
  refine Text.words_intercalate rfl fun word hword => ?_
  obtain ⟨i, -, rfl⟩ := List.mem_map.1 hword
  exact ⟨Nat.toDigits_ne_nil, fun c hc => isSeparator_of_isDigit (Text.isDigit_toDigits hc)⟩

/-- **A group is read back from its text**, if its indices can be written. -/
theorem ofText_toText {group : TrackGroup} (h : ∀ i ∈ group.indices, i ≤ maxWritableIndex) :
    ofText group.toText = .ok group := by
  rw [ofText, words_toText]
  refine bind_eq_ok_iff.2 ⟨group.indices, mapM_eq_ok_iff.2 ?_, group.ofList_indices⟩
  refine List.forall₂_map_left_iff.2 (List.forall₂_same.2 fun i hi => ?_)
  have hlt : i < Nat.pow 2 64 := by
    have hle := h i hi
    have hmax : maxWritableIndex < Nat.pow 2 64 := by decide
    omega
  simp only [Text.natOfBits?_toDigits hlt]

end TrackGroup

end GridLayout

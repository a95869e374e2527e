import GridLayout.Proofs.Sizing.Extent
import GridLayout.Proofs.TrackGroup.Members

/-!
# Giving the members of groups one size

A group that lies inside the tracks is applied by setting all its members to the size of the
largest. Nothing else changes, so no track gets smaller.

* `applyGroups_eq_ok_iff`: groups are applied, one after another by `TrackGroup.equalize`, exactly
  if all of them lie inside.
* `grownAt_equalizeAll`: only members of the groups grow.
-/

namespace GridLayout

namespace TrackGroup

variable (group : TrackGroup)

theorem indices_ne_nil : group.indices ≠ [] := by
  have htwo := group.two_le
  intro hnil
  simp [hnil] at htwo

theorem maxIndex_mem : group.maxIndex ∈ group.indices := by
  rw [maxIndex, List.getLastD_eq_getLast?, List.getLast?_eq_some_getLast group.indices_ne_nil]
  exact List.getLast_mem group.indices_ne_nil

/-- The indices ascend, so the last one is the largest. -/
theorem le_maxIndex {i : Nat} (hi : i ∈ group.indices) : i ≤ group.maxIndex := by
  obtain ⟨before, after, hsplit⟩ := List.append_of_mem hi
  have hsorted := group.ascending
  rw [hsplit] at hsorted
  rcases List.eq_nil_or_concat after with rfl | ⟨middle, last, rfl⟩
  · simp [maxIndex, hsplit]
  · have hlast : i < last :=
      (List.pairwise_cons.1 (List.pairwise_append.1 hsorted).2.1).1 last (by simp)
    have hconcat : group.indices = (before ++ i :: middle) ++ [last] := by simp [hsplit]
    rw [maxIndex, hconcat, List.getLastD_concat]
    exact hlast.le

/-- The largest size of a member is that of a member, and no member is larger. -/
theorem largest_spec (sizes : List Int) :
    (∃ i ∈ group.indices, group.largest sizes = sizes.getD i 0) ∧
      ∀ i ∈ group.indices, sizes.getD i 0 ≤ group.largest sizes := by
  obtain ⟨v, hv⟩ : ∃ v, (group.indices.map fun i => sizes.getD i 0).max? = some v := by
    rw [← Option.isSome_iff_exists, List.isSome_max?_iff]
    simpa using group.indices_ne_nil
  have hlargest : group.largest sizes = v := by rw [largest, hv, Option.getD_some]
  obtain ⟨hmem, hle⟩ := List.max?_eq_some_iff.1 hv
  obtain ⟨i, hi, heq⟩ := List.mem_map.1 hmem
  refine ⟨⟨i, hi, hlargest.trans heq.symm⟩, fun j hj => ?_⟩
  rw [hlargest]
  exact hle _ (List.mem_map.2 ⟨j, hj, rfl⟩)

/-- The sizes with those of the members set to the largest. -/
def equalize (sizes : List Int) : List Int :=
  group.indices.foldl (fun s i => s.set i (group.largest sizes)) sizes

theorem getD_foldl_set (indices : List Nat) (size : Int) (sizes : List Int) (j : Nat) :
    (indices.foldl (fun s i => s.set i size) sizes).getD j 0 =
      if j ∈ indices ∧ j < sizes.length then size else sizes.getD j 0 := by
  induction indices generalizing sizes with
  | nil => simp
  | cons i indices ih =>
    rw [List.foldl_cons, ih]
    by_cases hj : j < sizes.length
    · by_cases hij : i = j
      · simp [hij, hj, List.getD_eq_getElem?_getD]
      · simp [hij, Ne.symm hij, hj, List.getD_eq_getElem?_getD]
    · simp [hj, List.getD_eq_getElem?_getD]

theorem length_foldl_set (indices : List Nat) (size : Int) (sizes : List Int) :
    (indices.foldl (fun s i => s.set i size) sizes).length = sizes.length := by
  induction indices generalizing sizes with
  | nil => rfl
  | cons i indices ih => simp [ih]

variable {group}

/-- Every member has the largest size, and every other track what it had. -/
theorem getD_equalize {sizes : List Int} (h : group.maxIndex < sizes.length) (j : Nat) :
    (group.equalize sizes).getD j 0 =
      if j ∈ group.indices then group.largest sizes else sizes.getD j 0 := by
  rw [equalize, getD_foldl_set]
  refine if_congr ⟨fun hj => hj.1, fun hj => ⟨hj, ?_⟩⟩ rfl rfl
  exact (group.le_maxIndex hj).trans_lt h

theorem grownAt_equalize {sizes : List Int} (h : group.maxIndex < sizes.length) :
    GrownAt (· ∈ group.indices) sizes (group.equalize sizes) := by
  refine ⟨⟨length_foldl_set _ _ _, fun j hj => ?_⟩, fun j => ?_⟩
  · rw [getD_equalize h, if_neg hj]
  · rw [getD_equalize h]
    split
    · next hj => exact (group.largest_spec sizes).2 j hj
    · exact le_rfl

/-- Members of one size keep it. -/
theorem equalize_eq_self {sizes : List Int} (hfit : group.maxIndex < sizes.length) {size : Int}
    (h : ∀ i ∈ group.indices, sizes.getD i 0 = size) : group.equalize sizes = sizes := by
  obtain ⟨⟨i, hi, heq⟩, -⟩ := group.largest_spec sizes
  refine eq_of_getD_eq (grownAt_equalize hfit).length_eq fun j => ?_
  rw [getD_equalize hfit]
  split
  · next hj => rw [heq, h i hi, h j hj]
  · rfl

/-- Where the sizes of all members are at most others, so is the largest. -/
theorem largest_le_largest {sizes sizes' : List Int}
    (h : ∀ i ∈ group.indices, sizes.getD i 0 ≤ sizes'.getD i 0) :
    group.largest sizes ≤ group.largest sizes' := by
  obtain ⟨⟨i, hi, heq⟩, -⟩ := group.largest_spec sizes
  rw [heq]
  exact (h i hi).trans ((group.largest_spec sizes').2 i hi)

/-- Sizes that are at most others on a set of tracks with the whole group in it stay so. -/
theorem equalize_le_equalize {p : Nat → Prop} {sizes sizes' : List Int}
    (hfit : group.maxIndex < sizes.length) (hlen : sizes'.length = sizes.length)
    (hgroup : ∀ i ∈ group.indices, p i) (h : ∀ i, p i → sizes.getD i 0 ≤ sizes'.getD i 0) :
    ∀ i, p i → (group.equalize sizes).getD i 0 ≤ (group.equalize sizes').getD i 0 := by
  intro i hi
  rw [getD_equalize hfit, getD_equalize (hlen.symm ▸ hfit)]
  split
  · exact largest_le_largest fun j hj => h j (hgroup j hj)
  · exact h i hi

end TrackGroup

/-! ## Several groups -/

/-- The sizes after all groups, one after another. -/
def equalizeAll (groups : List TrackGroup) (sizes : List Int) : List Int :=
  groups.foldl (fun sizes group => group.equalize sizes) sizes

/-- All groups lie inside so many tracks. -/
def GroupsFit (groups : List TrackGroup) (count : Nat) : Prop :=
  ∀ group ∈ groups, group.maxIndex < count

theorem GroupsFit.tail {group : TrackGroup} {groups : List TrackGroup} {count : Nat}
    (h : GroupsFit (group :: groups) count) : GroupsFit groups count :=
  fun other hother => h other (List.mem_cons_of_mem group hother)

theorem grownAt_equalizeAll {groups : List TrackGroup} {sizes : List Int}
    (h : GroupsFit groups sizes.length) :
    GrownAt (fun i => ∃ group ∈ groups, i ∈ group.indices) sizes (equalizeAll groups sizes) := by
  induction groups generalizing sizes with
  | nil => exact .refl sizes
  | cons group groups ih =>
    have hfirst := TrackGroup.grownAt_equalize (h group (by simp))
    have hrest := ih (hfirst.length_eq.symm ▸ h.tail)
    refine (hfirst.mono fun i hi => ?_).trans (hrest.mono fun i hi => ?_)
    · exact ⟨group, by simp, hi⟩
    · obtain ⟨other, hother, hi⟩ := hi
      exact ⟨other, List.mem_cons_of_mem group hother, hi⟩

theorem equalizeAll_append (groups groups' : List TrackGroup) (sizes : List Int) :
    equalizeAll (groups ++ groups') sizes = equalizeAll groups' (equalizeAll groups sizes) :=
  List.foldl_append

/-- Groups never make a size larger than the largest one. -/
theorem equalizeAll_le {groups : List TrackGroup} {sizes : List Int}
    (hfit : GroupsFit groups sizes.length) {size : Int} (h : ∀ i, sizes.getD i 0 ≤ size) (i : Nat) :
    (equalizeAll groups sizes).getD i 0 ≤ size := by
  induction groups generalizing sizes with
  | nil => exact h i
  | cons group groups ih =>
    have hfirst := hfit group (by simp)
    have hlen := (TrackGroup.grownAt_equalize hfirst).length_eq
    refine ih (hlen.symm ▸ hfit.tail) fun j => ?_
    rw [TrackGroup.getD_equalize hfirst]
    split
    · obtain ⟨⟨k, -, heq⟩, -⟩ := group.largest_spec sizes
      exact heq ▸ h k
    · exact h j

/-- Members of one size keep it, whatever groups they are in. -/
theorem equalizeAll_eq_self {groups : List TrackGroup} {sizes : List Int}
    (hfit : GroupsFit groups sizes.length) {size : Int}
    (h : ∀ group ∈ groups, ∀ i ∈ group.indices, sizes.getD i 0 = size) :
    equalizeAll groups sizes = sizes := by
  induction groups with
  | nil => rfl
  | cons group groups ih =>
    have hfirst := TrackGroup.equalize_eq_self (hfit group (by simp)) (h group (by simp))
    have hrest := ih hfit.tail fun other hother => h other (List.mem_cons_of_mem group hother)
    change equalizeAll groups (group.equalize sizes) = sizes
    rw [hfirst, hrest]

/-- Sizes that are at most others on a set of tracks with all groups in it stay so. -/
theorem equalizeAll_le_equalizeAll {p : Nat → Prop} {groups : List TrackGroup}
    {sizes sizes' : List Int} (hfit : GroupsFit groups sizes.length)
    (hlen : sizes'.length = sizes.length) (hgroups : ∀ group ∈ groups, ∀ i ∈ group.indices, p i)
    (h : ∀ i, p i → sizes.getD i 0 ≤ sizes'.getD i 0) :
    ∀ i, p i → (equalizeAll groups sizes).getD i 0 ≤ (equalizeAll groups sizes').getD i 0 := by
  induction groups generalizing sizes sizes' with
  | nil => exact h
  | cons group groups ih =>
    have hfirst := hfit group (by simp)
    have hlen₁ := (TrackGroup.grownAt_equalize hfirst).length_eq
    have hlen₂ := (TrackGroup.grownAt_equalize (hlen.symm ▸ hfirst)).length_eq
    exact ih (hlen₁.symm ▸ hfit.tail) (hlen₂.trans (hlen.trans hlen₁.symm))
      (fun other hother => hgroups other (List.mem_cons_of_mem group hother))
      (TrackGroup.equalize_le_equalize hfirst hlen (hgroups group (by simp)) h)

/-- Groups are applied exactly if all of them lie inside the tracks. -/
theorem applyGroups_eq_ok_iff {groups : List TrackGroup} {sizes sizes' : List Int} :
    Grid.applyGroups groups sizes = .ok sizes' ↔
      GroupsFit groups sizes.length ∧ sizes' = equalizeAll groups sizes := by
  induction groups generalizing sizes with
  | nil => simp [Grid.applyGroups, equalizeAll, GroupsFit, pure, Except.pure, eq_comm]
  | cons group groups ih =>
    simp only [Grid.applyGroups, List.foldlM_cons, TrackGroup.apply]
    by_cases h : group.maxIndex < sizes.length
    · have hlen := (TrackGroup.grownAt_equalize h).length_eq
      have hrest := @ih (group.equalize sizes)
      rw [hlen] at hrest
      simp only [h, if_true]
      refine hrest.trans (and_congr ⟨fun hfit other hother => ?_, GroupsFit.tail⟩ Iff.rfl)
      rcases List.mem_cons.1 hother with rfl | hother
      · exact h
      · exact hfit other hother
    · simp only [h, if_false]
      constructor
      · intro herror
        simp [bind, Except.bind] at herror
      · intro hfit
        exact absurd (hfit.1 group (by simp)) h

end GridLayout

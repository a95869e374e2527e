import GridLayout.Proofs.Sizing.Equalization

/-!
# Where a size with groups comes from

A group gives its members the size of the largest, and later groups go on from there. So after all
groups the size of a track is the largest among certain tracks, its sources. The members of a group
have one size afterwards, whatever the sizes were before, exactly if they have the same sources.

* `sources`: the tracks that the size of a track is taken from.
* `forall_shares_iff_sameSources`: the members of all groups share their sizes exactly if they share
  their sources.
* `shares_equalizeAll_of_laminar`: it is so for groups that are disjoint or one inside the other.
-/

namespace GridLayout

/-- The members of the group have one size. -/
def TrackGroup.Shares (group : TrackGroup) (sizes : List Int) : Prop :=
  ∀ i ∈ group.indices, ∀ j ∈ group.indices, sizes.getD i 0 = sizes.getD j 0

/-- The tracks before the groups are applied among which the size of a track afterwards is the
largest. A group stands for all its members wherever one of them is a source. -/
def sources : List TrackGroup → Nat → List Nat
  | [], i => [i]
  | group :: groups, i =>
    (sources groups i).flatMap fun j => if j ∈ group.indices then group.indices else [j]

/-- The members of each group have the same sources. -/
def SameSources (groups : List TrackGroup) : Prop :=
  ∀ group ∈ groups, ∀ i ∈ group.indices, ∀ j ∈ group.indices,
    ∀ k ∈ sources groups i, k ∈ sources groups j

instance (groups : List TrackGroup) : Decidable (SameSources groups) :=
  inferInstanceAs (Decidable (∀ group ∈ groups, ∀ i ∈ group.indices, ∀ j ∈ group.indices,
    ∀ k ∈ sources groups i, k ∈ sources groups j))

/-! ## Sizes from their sources -/

variable {groups : List TrackGroup} {sizes : List Int}

theorem mem_sources_cons {group : TrackGroup} {i k : Nat} :
    k ∈ sources (group :: groups) i ↔
      ∃ j ∈ sources groups i, k ∈ if j ∈ group.indices then group.indices else [j] :=
  List.mem_flatMap

/-- The size of a track after a group is the largest among the members, or its own. -/
theorem getD_equalize_spec {group : TrackGroup} (hfit : group.maxIndex < sizes.length) (j : Nat) :
    (∃ k ∈ if j ∈ group.indices then group.indices else [j],
        (group.equalize sizes).getD j 0 = sizes.getD k 0) ∧
      ∀ k ∈ if j ∈ group.indices then group.indices else [j],
        sizes.getD k 0 ≤ (group.equalize sizes).getD j 0 := by
  rw [TrackGroup.getD_equalize hfit]
  by_cases hj : j ∈ group.indices
  · rw [if_pos hj, if_pos hj]
    exact group.largest_spec sizes
  · rw [if_neg hj, if_neg hj]
    constructor
    · exact ⟨j, List.mem_singleton_self j, rfl⟩
    · intro k hk
      obtain rfl := List.mem_singleton.1 hk
      exact le_rfl

/-- **The size of a track after all groups is the largest among its sources.** -/
theorem getD_equalizeAll_spec (hfit : GroupsFit groups sizes.length) (i : Nat) :
    (∃ k ∈ sources groups i, (equalizeAll groups sizes).getD i 0 = sizes.getD k 0) ∧
      ∀ k ∈ sources groups i, sizes.getD k 0 ≤ (equalizeAll groups sizes).getD i 0 := by
  induction groups generalizing sizes with
  | nil =>
    constructor
    · exact ⟨i, List.mem_singleton_self i, rfl⟩
    · intro k hk
      obtain rfl := List.mem_singleton.1 hk
      exact le_rfl
  | cons group groups ih =>
    have hfirst := hfit group (by simp)
    have hlen := (TrackGroup.grownAt_equalize hfirst).length_eq
    obtain ⟨⟨j, hj, heq⟩, hle⟩ := ih (hlen.symm ▸ hfit.tail)
    constructor
    · obtain ⟨⟨k, hk, heq'⟩, -⟩ := getD_equalize_spec hfirst j
      exact ⟨k, mem_sources_cons.2 ⟨j, hj, hk⟩, heq.trans heq'⟩
    · intro k hk
      obtain ⟨j, hj, hk⟩ := mem_sources_cons.1 hk
      exact ((getD_equalize_spec hfirst j).2 k hk).trans (hle j hj)

/-- More sources make a larger size. -/
theorem getD_equalizeAll_le {i j : Nat} (hfit : GroupsFit groups sizes.length)
    (h : ∀ k ∈ sources groups i, k ∈ sources groups j) :
    (equalizeAll groups sizes).getD i 0 ≤ (equalizeAll groups sizes).getD j 0 := by
  obtain ⟨⟨k, hk, heq⟩, -⟩ := getD_equalizeAll_spec hfit i
  rw [heq]
  exact (getD_equalizeAll_spec hfit j).2 k (h k hk)

/-- A single large size reaches the tracks that have it among their sources, and no others. -/
theorem getD_equalizeAll_single {k : Nat} (hfit : GroupsFit groups sizes.length)
    (hsizes : ∀ l, sizes.getD l 0 = if l = k then 1 else 0) (i : Nat) :
    (equalizeAll groups sizes).getD i 0 = if k ∈ sources groups i then 1 else 0 := by
  obtain ⟨⟨l, hl, heq⟩, hle⟩ := getD_equalizeAll_spec hfit i
  rw [hsizes] at heq
  by_cases hk : k ∈ sources groups i
  · have hone := hle k hk
    rw [hsizes, if_pos rfl, heq] at hone
    by_cases hlk : l = k
    · rw [heq, if_pos hlk, if_pos hk]
    · rw [if_neg hlk] at hone
      omega
  · have hlk : l ≠ k := by
      rintro rfl
      exact hk hl
    rw [heq, if_neg hlk, if_neg hk]

/-- A source of a member lies inside, as the groups do. -/
theorem lt_of_mem_sources {count i k : Nat} (hfit : GroupsFit groups count) (hi : i < count)
    (hk : k ∈ sources groups i) : k < count := by
  induction groups generalizing k with
  | nil => rwa [List.mem_singleton.1 hk]
  | cons group groups ih =>
    obtain ⟨j, hj, hk⟩ := mem_sources_cons.1 hk
    by_cases hmem : j ∈ group.indices
    · rw [if_pos hmem] at hk
      exact (group.le_maxIndex hk).trans_lt (hfit group (by simp))
    · rw [if_neg hmem, List.mem_singleton] at hk
      exact hk ▸ ih hfit.tail hj

/-! ## When the members share their sizes -/

theorem shares_of_sameSources (hfit : GroupsFit groups sizes.length) (h : SameSources groups) :
    ∀ group ∈ groups, group.Shares (equalizeAll groups sizes) := by
  intro group hgroup i hi j hj
  apply le_antisymm
  · exact getD_equalizeAll_le hfit (h group hgroup i hi j hj)
  · exact getD_equalizeAll_le hfit (h group hgroup j hj i hi)

/-- If the members of a group have different sources, a single large size tells them apart. -/
theorem exists_source_of_not_sameSources {count : Nat} (hfit : GroupsFit groups count)
    (h : ¬SameSources groups) : ∃ k < count, ∀ sizes : List Int, sizes.length = count →
      (∀ l, sizes.getD l 0 = if l = k then 1 else 0) →
        ∃ group ∈ groups, ¬group.Shares (equalizeAll groups sizes) := by
  unfold SameSources at h
  push Not at h
  obtain ⟨group, hgroup, i, hi, j, hj, k, hk, hk'⟩ := h
  have hcount : i < count := (group.le_maxIndex hi).trans_lt (hfit group hgroup)
  refine ⟨k, lt_of_mem_sources hfit hcount hk, fun sizes hlen hsizes => ⟨group, hgroup, ?_⟩⟩
  intro hshares
  have heq := hshares i hi j hj
  rw [getD_equalizeAll_single (hlen.symm ▸ hfit) hsizes,
    getD_equalizeAll_single (hlen.symm ▸ hfit) hsizes, if_pos hk, if_neg hk'] at heq
  exact absurd heq (by decide)

/-- The sizes of so many tracks of which one is large. -/
def singleSize (count k : Nat) : List Int :=
  (List.range count).map fun l => if l = k then 1 else 0

theorem getD_singleSize {count k : Nat} (hk : k < count) (l : Nat) :
    (singleSize count k).getD l 0 = if l = k then 1 else 0 := by
  by_cases hl : l < count
  · simp [singleSize, List.getD_eq_getElem?_getD, hl]
  · have hne : l ≠ k := by omega
    simp [singleSize, List.getD_eq_getElem?_getD, hl, hne]

/-- The members of all groups share their sizes, whatever the sizes before, exactly if they share
their sources. -/
theorem forall_shares_iff_sameSources {count : Nat} (hfit : GroupsFit groups count) :
    (∀ sizes : List Int, sizes.length = count →
      ∀ group ∈ groups, group.Shares (equalizeAll groups sizes)) ↔ SameSources groups := by
  constructor
  · intro hall
    by_contra hnot
    obtain ⟨k, hk, hsingle⟩ := exists_source_of_not_sameSources hfit hnot
    have hlen : (singleSize count k).length = count := by simp [singleSize]
    obtain ⟨group, hgroup, hshares⟩ := hsingle _ hlen (getD_singleSize hk)
    exact hshares (hall _ hlen group hgroup)
  · intro h sizes hlen
    exact shares_of_sameSources (hlen.symm ▸ hfit) h

/-! ## Disjoint and nested groups -/

/-- One group lies inside the other, or they have no member in common. -/
def TrackGroup.Laminar (a b : TrackGroup) : Prop :=
  (∀ i ∈ a.indices, i ∉ b.indices) ∨ (∀ i ∈ a.indices, i ∈ b.indices) ∨
    ∀ i ∈ b.indices, i ∈ a.indices

/-- A group keeps the sizes shared of those it is disjoint to or nested with. -/
theorem TrackGroup.Shares.equalize {a b : TrackGroup} (h : a.Shares sizes) (hlaminar : a.Laminar b)
    (hfit : b.maxIndex < sizes.length) : a.Shares (b.equalize sizes) := by
  intro i hi j hj
  rcases hlaminar with hdisjoint | hinside | haround
  · rw [getD_equalize hfit, getD_equalize hfit, if_neg (hdisjoint i hi), if_neg (hdisjoint j hj)]
    exact h i hi j hj
  · rw [getD_equalize hfit, getD_equalize hfit, if_pos (hinside i hi), if_pos (hinside j hj)]
  · rw [b.equalize_eq_self hfit fun k hk => h k (haround k hk) i hi]
    exact h i hi j hj

theorem TrackGroup.shares_equalize {group : TrackGroup} (hfit : group.maxIndex < sizes.length) :
    group.Shares (group.equalize sizes) := by
  intro i hi j hj
  rw [getD_equalize hfit, getD_equalize hfit, if_pos hi, if_pos hj]

/-- The members of groups that are pairwise disjoint or nested share their sizes. -/
theorem shares_equalizeAll_of_laminar (hfit : GroupsFit groups sizes.length)
    (h : groups.Pairwise TrackGroup.Laminar) :
    ∀ group ∈ groups, group.Shares (equalizeAll groups sizes) := by
  induction groups using List.reverseRecOn with
  | nil => simp
  | append_singleton groups last ih =>
    have hbefore : GroupsFit groups sizes.length := fun group hgroup => hfit group (by simp [hgroup])
    have hlast : last.maxIndex < (equalizeAll groups sizes).length := by
      rw [(grownAt_equalizeAll hbefore).length_eq]
      exact hfit last (by simp)
    obtain ⟨hpairs, -, hacross⟩ := List.pairwise_append.1 h
    intro group hgroup
    rw [equalizeAll_append]
    rcases List.mem_append.1 hgroup with hgroup | hgroup
    · exact (ih hbefore hpairs group hgroup).equalize (hacross group hgroup last (by simp)) hlast
    · obtain rfl := List.mem_singleton.1 hgroup
      exact TrackGroup.shares_equalize hlast

theorem sameSources_of_laminar {count : Nat} (hfit : GroupsFit groups count)
    (h : groups.Pairwise TrackGroup.Laminar) : SameSources groups := by
  apply (forall_shares_iff_sameSources hfit).1
  intro sizes hlen
  exact shares_equalizeAll_of_laminar (hlen.symm ▸ hfit) h

end GridLayout

import Mathlib.Data.Finset.SDiff
import GridLayout.Proofs.Grid.Growth

/-!
# When the minimum sizes are below the preferred ones

Measured by their minimum sizes, components claim less; but a track that starts out smaller may be
enlarged more, and hand the difference on to a later component or to a group. It does not if the
components of several tracks are nested (`Grid.Nested`): each lies apart from every later one or
inside it, and no member of a group is among their tracks.

* `Grid.sum_foldl_accommodate_le`: the invariant. Over a set of tracks that contains every component
  so far or avoids it, the minimum pass needs no more space than the preferred one, if 32 bits hold
  what the passes take.
* `Grid.total_minimum_le_preferred`: so the minimum size of nested components is at most their
  preferred size.
-/

namespace GridLayout

open Finset

/-- No component has a minimum size above its preferred one. -/
def Measures.Ordered (m : Measures) : Prop := ∀ id axis, m.minimum id axis ≤ m.preferred id axis

namespace Grid

/-- Components of several tracks lie apart from each later one or inside it, and apart from all
groups. -/
structure Nested (g : Grid) (axis : Axis) : Prop where
  pairwise : (g.spanning axis).Pairwise fun e e' =>
    Disjoint (e.cells axis) (e'.cells axis) ∨ e.cells axis ⊆ e'.cells axis
  groups : ∀ e ∈ g.spanning axis, ∀ group ∈ g.groups axis, ∀ i ∈ group.indices, i ∉ e.cells axis

variable {g : Grid} {m : Measures} {axis : Axis}

theorem claim_minimum_le (hm : m.Ordered) (e : Entry) :
    g.claim m .minimum axis e ≤ g.claim m .preferred axis e :=
  g.claim_le_claim axis rfl le_rfl (hm e.id axis)

/-! ## Spanning components -/

/-- The set of tracks contains all tracks of each component, or none. -/
def Separates (s : Finset Nat) (axis : Axis) (entries : List Entry) : Prop :=
  ∀ e ∈ entries, e.cells axis ⊆ s ∨ Disjoint (e.cells axis) s

/-- Tracks apart from a component keep their space. -/
theorem sum_accommodate_of_disjoint (pass : Pass) (sizes : List Int) {e : Entry} {s : Finset Nat}
    (hs : Disjoint (e.cells axis) s) :
    ∑ j ∈ s, (g.accommodate m pass axis sizes e).getD j 0 = ∑ j ∈ s, sizes.getD j 0 := by
  refine (g.changedAt_accommodate m pass axis sizes e).sum_eq fun i hi hmem => ?_
  exact disjoint_left.1 hs (Slot.lt_of_mem_elastic hmem).2 hi

/-- Tracks that include those of a component need what they had, or what the component claims
besides what the others had. -/
theorem sum_accommodate_of_subset {pass : Pass} {sizes : List Int} {e : Entry}
    (hfit : g.RoomFits m pass axis sizes e) (hlen : sizes.length = g.count axis)
    (h : (e.placement.along axis).elastic (g.tracks axis) ≠ []) {s : Finset Nat}
    (hs : e.cells axis ⊆ s) :
    ∑ j ∈ s, (g.accommodate m pass axis sizes e).getD j 0 =
      max (∑ j ∈ s, sizes.getD j 0)
        (∑ j ∈ s \ e.cells axis, sizes.getD j 0 + g.claim m pass axis e) := by
  have hsplit := sum_sdiff (f := fun j => sizes.getD j 0) hs
  rw [sum_accommodate hfit hlen h hs, Slot.extent_eq_sum]
  unfold Entry.cells at hsplit ⊢
  omega

/-- Without the tracks of a component the set still separates those that lie apart from it or
inside it. -/
theorem Separates.sdiff {s : Finset Nat} {entries : List Entry} (hs : Separates s axis entries)
    {e : Entry} (h : ∀ e' ∈ entries,
      Disjoint (e'.cells axis) (e.cells axis) ∨ e'.cells axis ⊆ e.cells axis) :
    Separates (s \ e.cells axis) axis entries := by
  intro e' he'
  rcases hs e' he' with hsub | hdisjoint
  · rcases h e' he' with hapart | hinside
    · exact .inl (subset_sdiff.2 ⟨hsub, hapart⟩)
    · exact .inr (disjoint_sdiff.mono_left hinside)
  · exact .inr (hdisjoint.mono_right sdiff_subset)

/-- **The invariant of the two passes**: over every set of tracks that separates the components so
far, the minimum pass needs no more space than the preferred one. -/
theorem sum_foldl_accommodate_le (hm : m.Ordered) {entries : List Entry}
    (hfit : ∀ pass, g.RoomFitsInTurn m pass axis entries (g.scanBaseSizes m pass axis))
    (hnested : entries.Pairwise fun e e' =>
      Disjoint (e.cells axis) (e'.cells axis) ∨ e.cells axis ⊆ e'.cells axis)
    {s : Finset Nat} (hs : Separates s axis entries) :
    ∑ j ∈ s, (entries.foldl (g.accommodate m .minimum axis)
        (g.scanBaseSizes m .minimum axis)).getD j 0 ≤
      ∑ j ∈ s, (entries.foldl (g.accommodate m .preferred axis)
        (g.scanBaseSizes m .preferred axis)).getD j 0 := by
  -- the last component adds to what the set needed, or makes it what the rest of the set needed
  induction entries using List.reverseRecOn generalizing s with
  | nil =>
    exact sum_le_sum fun i _ =>
      g.getD_scanBaseSizes_le axis rfl (fun e _ => claim_minimum_le hm e) i
  | append_singleton entries e ih =>
    obtain ⟨hearlier, -, hlast⟩ := List.pairwise_append.1 hnested
    have hseparates : Separates s axis entries := fun e' he' =>
      hs e' (List.mem_append_left _ he')
    have hlen (pass : Pass) : (entries.foldl (g.accommodate m pass axis)
        (g.scanBaseSizes m pass axis)).length = g.count axis := by
      rw [(g.changedAt_foldl_accommodate m pass axis entries _).length_eq, length_scanBaseSizes]
    have hearlierFit (pass : Pass) := (roomFitsInTurn_append.1 (hfit pass)).1
    have hlastFit (pass : Pass) := (roomFitsInTurn_append.1 (hfit pass)).2.1
    simp only [List.foldl_append, List.foldl_cons, List.foldl_nil]
    by_cases helastic : (e.placement.along axis).elastic (g.tracks axis) = []
    · rw [accommodate_of_elastic_eq_nil _ _ _ _ helastic,
        accommodate_of_elastic_eq_nil _ _ _ _ helastic]
      exact ih hearlierFit hearlier hseparates
    · rcases hs e (by simp) with hsub | hdisjoint
      · rw [sum_accommodate_of_subset (hlastFit .minimum) (hlen .minimum) helastic hsub,
          sum_accommodate_of_subset (hlastFit .preferred) (hlen .preferred) helastic hsub]
        have hwhole := ih hearlierFit hearlier hseparates
        have hrest := ih hearlierFit hearlier
          (hseparates.sdiff fun e' he' => hlast e' he' e (by simp))
        exact max_le_max hwhole (add_le_add hrest (claim_minimum_le hm e))
      · rw [sum_accommodate_of_disjoint .minimum _ hdisjoint,
          sum_accommodate_of_disjoint .preferred _ hdisjoint]
        exact ih hearlierFit hearlier hseparates

/-! ## Groups -/

/-- The members of all groups of an axis. -/
def members (g : Grid) (axis : Axis) : Finset Nat :=
  ((g.groups axis).flatMap TrackGroup.indices).toFinset

theorem mem_members {i : Nat} :
    i ∈ g.members axis ↔ ∃ group ∈ g.groups axis, i ∈ group.indices := by
  simp [members]

/-- Nested components need no more space by their minimum sizes than by their preferred ones. -/
theorem total_minimum_le_preferred (hm : m.Ordered) (hcheck : g.check = .ok ())
    (hgroups : g.GroupsInside axis) (hfit : ∀ pass, g.PassFits m pass axis)
    (hnested : g.Nested axis) :
    total (g.equalizedSizes m .minimum axis) ≤ total (g.equalizedSizes m .preferred axis) := by
  have hcells {s : Finset Nat} (hs : Separates s axis (g.spanning axis)) :
      ∑ j ∈ s, (g.scanCellSizes m .minimum axis).getD j 0 ≤
        ∑ j ∈ s, (g.scanCellSizes m .preferred axis).getD j 0 :=
    sum_foldl_accommodate_le hm hfit hnested.pairwise hs
  -- a member of a group is apart from all components, so its own size is not larger
  have hmember : ∀ i, i ∈ g.members axis → (g.scanCellSizes m .minimum axis).getD i 0 ≤
      (g.scanCellSizes m .preferred axis).getD i 0 := by
    intro i hi
    obtain ⟨group, hgroup, hi⟩ := mem_members.1 hi
    have hsingle := hcells (s := {i}) fun e he =>
      .inr (disjoint_singleton_right.2 (hnested.groups e he group hgroup i hi))
    simpa using hsingle
  have hequal := equalizeAll_le_equalizeAll (p := (· ∈ g.members axis))
    (by rw [length_scanCellSizes]; exact hgroups) (by simp)
    (fun group hgroup i hi => mem_members.2 ⟨group, hgroup, hi⟩) hmember
  have hother (pass : Pass) : ∑ j ∈ range (g.count axis) \ g.members axis,
      (g.equalizedSizes m pass axis).getD j 0 =
        ∑ j ∈ range (g.count axis) \ g.members axis, (g.scanCellSizes m pass axis).getD j 0 :=
    (grownAt_equalizedSizes m pass hgroups).sum_eq fun i hi hmem =>
      (mem_sdiff.1 hi).2 (mem_members.2 hmem)
  have hrest := hcells (s := range (g.count axis) \ g.members axis) fun e he => by
    have hfits := fits_of_check hcheck (List.mem_filter.1 he).1
    refine .inl fun i hi => mem_sdiff.2 ⟨mem_range.2 ?_, fun hmem => ?_⟩
    · exact (mem_Ico.1 hi).2.trans_le (hfits.stop_le axis)
    · obtain ⟨group, hgroup, hmem⟩ := mem_members.1 hmem
      exact hnested.groups e he group hgroup i hmem hi
  rw [total_eq_sum, total_eq_sum, length_equalizedSizes m _ hgroups,
    length_equalizedSizes m _ hgroups, ← sum_inter_add_sum_sdiff _ (g.members axis),
    ← sum_inter_add_sum_sdiff (range (g.count axis)) (g.members axis), hother, hother]
  exact add_le_add (sum_le_sum fun i hi => hequal i (mem_inter.1 hi).2) hrest

end Grid

end GridLayout

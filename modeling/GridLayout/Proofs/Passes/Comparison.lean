import GridLayout.Proofs.Grid.Accounting
import GridLayout.Proofs.Passes.Anomaly

/-!
# When the minimum size of a grid is below its preferred one

Whether minimum sizes can lead to a larger grid than preferred ones is a matter of its shape: of the
number of tracks, of the slots of several tracks in the order of their components, of the groups,
and of whether the grid may shrink.

* `Grid.SameShape` relates the grids of a shape along an axis.
* `Grid.exists_total_lt`: a shape whose slots are not nested has a probe and measures by which the
  minimum size is the larger one.
* `CachedGrid.ShapeOrdered`: the minimum size is at most the preferred one for all grids of a shape
  and all measures, as far as both are found in 32 bits.
* `CachedGrid.minimumSize_le_preferredSize_iff`: this is so exactly if the slots are nested or
  nothing shrinks. That it is so only then holds for fewer than `2 ^ 15` tracks, on which the sizes
  that show it stay small enough.
-/

namespace GridLayout

open Finset

/-- A list that is not related throughout has two members that are not, one before the other. -/
theorem exists_append_of_not_pairwise {α : Type} {R : α → α → Prop} {l : List α}
    (h : ¬l.Pairwise R) : ∃ l₁ a l₂ b l₃, l = l₁ ++ a :: (l₂ ++ b :: l₃) ∧ ¬R a b := by
  induction l with
  | nil => exact absurd .nil h
  | cons a l ih =>
    by_cases hl : l.Pairwise R
    · obtain ⟨b, hb, hab⟩ : ∃ b ∈ l, ¬R a b := by
        by_contra! hall
        exact h (.cons hall hl)
      obtain ⟨l₂, l₃, rfl⟩ := List.append_of_mem hb
      exact ⟨[], a, l₂, b, l₃, rfl, hab⟩
    · obtain ⟨l₁, x, l₂, y, l₃, rfl, hxy⟩ := ih hl
      exact ⟨a :: l₁, x, l₂, y, l₃, rfl, hxy⟩

namespace Grid

variable {g g' : Grid} {axis : Axis} {count : Nat} {spans : List (Nat × Nat)}
  {groups : List TrackGroup}

/-! ## Shapes -/

/-- The slots of several tracks, by start and span. -/
def spanningSlots (g : Grid) (axis : Axis) : List (Nat × Nat) :=
  (g.spanning axis).map fun e => ((e.placement.along axis).start, (e.placement.along axis).span)

/-- The grids have as many tracks along the axis, the same slots of several tracks and the same
groups, and both may shrink or neither. -/
structure SameShape (axis : Axis) (g g' : Grid) : Prop where
  count : g'.count axis = g.count axis
  slots : g'.spanningSlots axis = g.spanningSlots axis
  groups : g'.groups axis = g.groups axis
  canShrink : g'.canShrink = g.canShrink

/-- The slots lie apart from each later one or inside it, and apart from all groups. -/
structure SpansNested (spans : List (Nat × Nat)) (groups : List TrackGroup) : Prop where
  pairwise : spans.Pairwise fun p q =>
    Disjoint (Ico p.1 (p.1 + p.2)) (Ico q.1 (q.1 + q.2)) ∨
      Ico p.1 (p.1 + p.2) ⊆ Ico q.1 (q.1 + q.2)
  groups : ∀ p ∈ spans, ∀ group ∈ groups, ∀ i ∈ group.indices, i ∉ Ico p.1 (p.1 + p.2)

theorem nested_iff_spansNested :
    g.Nested axis ↔ SpansNested (g.spanningSlots axis) (g.groups axis) := by
  constructor
  · intro h
    refine ⟨List.pairwise_map.2 h.pairwise, fun p hp => ?_⟩
    obtain ⟨e, he, rfl⟩ := List.mem_map.1 hp
    exact h.groups e he
  · intro h
    exact ⟨List.pairwise_map.1 h.pairwise, fun e he =>
      h.groups _ (List.mem_map_of_mem he)⟩

/-- Whether slots are nested is a matter of the shape. -/
theorem SameShape.nested (h : SameShape axis g g') (hnested : g.Nested axis) : g'.Nested axis := by
  rw [nested_iff_spansNested] at hnested ⊢
  rwa [h.slots, h.groups]

theorem spansInside_spanningSlots (hcheck : g.check = .ok ()) :
    SpansInside (g.spanningSlots axis) (g.count axis) := by
  intro p hp
  obtain ⟨e, he, rfl⟩ := List.mem_map.1 hp
  obtain ⟨he, hspanning⟩ := List.mem_filter.1 he
  have hfits := fits_of_check hcheck he
  have hpos := hfits.span_pos axis
  have hne : (e.placement.along axis).span ≠ 1 := by simpa [Entry.isSpanning] using hspanning
  exact ⟨by omega, hfits.stop_le axis⟩

theorem spanningSlots_probe (h : SpansInside spans count) :
    (probe axis count spans groups).spanningSlots axis = spans := by
  rw [spanningSlots, spanning_probe h, probeSpans, List.map_map]
  refine (List.map_congr_left fun x _ => ?_).trans (List.zipIdx_map_fst 0 spans)
  simp

theorem sameShape_probe (hcheck : g.check = .ok ()) (hshrink : g.canShrink = true) :
    SameShape axis g (probe axis (g.count axis) (g.spanningSlots axis) (g.groups axis)) :=
  ⟨count_probe, spanningSlots_probe (spansInside_spanningSlots hcheck), groups_probe, hshrink.symm⟩

/-! ## Shapes that are not nested -/

/-- If slots are not nested, a probe of them has a larger minimum size than preferred size. -/
theorem exists_total_lt (axis : Axis) (hspans : SpansInside spans count)
    (hgroups : GroupsFit groups count) (hbound : count < 2 ^ 15)
    (h : ¬SpansNested spans groups) :
    ∃ m : Measures, m.Ordered ∧ (probe axis count spans groups).TotalsFit m axis ∧
      total ((probe axis count spans groups).equalizedSizes m .preferred axis) <
        total ((probe axis count spans groups).equalizedSizes m .minimum axis) := by
  by_cases hapart : ∀ p ∈ spans, ∀ group ∈ groups, ∀ i ∈ group.indices, i ∉ Ico p.1 (p.1 + p.2)
  · obtain ⟨l₁, p, l₂, q, l₃, rfl, hcrossing⟩ :=
      exists_append_of_not_pairwise fun hpairwise => h ⟨hpairwise, hapart⟩
    exact total_lt_of_crossing hspans hgroups hbound (hapart p (by simp)) hcrossing
  · push Not at hapart
    obtain ⟨p, hp, group, hgroup, i, hi, hcover⟩ := hapart
    exact total_lt_of_group hspans hgroups hbound hp hcover ⟨group, hgroup, hi⟩

/-- Where slots are not nested there are slots, and so tracks. -/
theorem count_pos_of_not_spansNested (hspans : SpansInside spans count)
    (h : ¬SpansNested spans groups) : 0 < count := by
  match spans with
  | [] => exact absurd ⟨.nil, by simp⟩ h
  | p :: _ =>
    obtain ⟨htwo, hstop⟩ := hspans p (by simp)
    omega

end Grid

namespace CachedGrid

open Grid

variable {g : CachedGrid}

/-- A reachable grid without faults reports the totals of both passes. -/
theorem answer_sizes_eq_ok (h : g.Reachable) (hcheck : g.grid.check = .ok ())
    (hgroups : ∀ axis, g.grid.GroupsInside axis) (m : Measures) :
    (g.answer (.preferredSize m)).1 = .ok (.ofPerAxis (.ofFun fun axis =>
        wrap (total (g.grid.equalizedSizes m .preferred axis)))) ∧
      (g.answer (.minimumSize m)).1 = .ok (.ofPerAxis (.ofFun fun axis =>
        wrap (total (g.grid.equalizedSizes m
          (if g.grid.canShrink then .minimum else .preferred) axis)))) := by
  rw [h.answer_eq_scan, h.answer_eq_scan]
  exact ⟨scanTotalSize_eq_ok m hcheck hgroups _, scanTotalSize_eq_ok m hcheck hgroups _⟩

/-- For all grids of the shape that this one has along the axis, and all measures by which no
component has a larger minimum size than preferred size, the minimum size of the grid is at most its
preferred size, if 32 bits hold what both are found from. -/
def ShapeOrdered (g : CachedGrid) (axis : Axis) : Prop :=
  ∀ g' : CachedGrid, g'.Reachable → SameShape axis g.grid g'.grid →
    (g'.answer .validate).1 = .ok () → (∀ a, g'.grid.GroupsInside a) →
    ∀ m : Measures, m.Ordered → g'.grid.TotalsFit m axis → ∃ minimum preferred,
      (g'.answer (.minimumSize m)).1 = .ok minimum ∧
      (g'.answer (.preferredSize m)).1 = .ok preferred ∧
      minimum.along axis ≤ preferred.along axis

theorem shapeOrdered_of_nested {axis : Axis}
    (hshape : g.grid.canShrink = false ∨ g.grid.Nested axis) : g.ShapeOrdered axis := by
  intro g' h' hsame hvalid' hgroups' m hm hfit
  have hcheck' : g'.grid.check = .ok () := (h'.answer_eq_scan .validate).symm.trans hvalid'
  obtain ⟨hpreferred, hminimum⟩ := answer_sizes_eq_ok h' hcheck' hgroups' m
  refine ⟨_, _, hminimum, hpreferred, ?_⟩
  rw [Size.along_ofPerAxis_ofFun, Size.along_ofPerAxis_ofFun, hsame.canShrink,
    wrap_eq_self (hfit.total _), wrap_eq_self (hfit.total _)]
  rcases hshape with hfixed | hnested
  · simp [hfixed]
  · split
    · exact total_minimum_le_preferred hm hcheck' (hgroups' axis) hfit.pass (hsame.nested hnested)
    · exact le_rfl

theorem nested_of_shapeOrdered {axis : Axis} (hcheck : g.grid.check = .ok ())
    (hgroups : ∀ axis, g.grid.GroupsInside axis) (hbound : g.grid.count axis < 2 ^ 15)
    (hall : g.ShapeOrdered axis) : g.grid.canShrink = false ∨ g.grid.Nested axis := by
  by_contra! hshape
  obtain ⟨hshrink, hnot⟩ := hshape
  have hspans : SpansInside (g.grid.spanningSlots axis) (g.grid.count axis) :=
    spansInside_spanningSlots hcheck
  rw [nested_iff_spansNested] at hnot
  obtain ⟨m, hm, hfit, hlt⟩ := exists_total_lt axis hspans (hgroups axis) hbound hnot
  -- the probe has a history of its own, so it is one of the grids of the shape
  have hcount := count_pos_of_not_spansNested hspans hnot
  obtain ⟨g', h', hgrid⟩ := exists_reachable
    (g := probe axis (g.grid.count axis) (g.grid.spanningSlots axis) (g.grid.groups axis))
    (tracks_probe_ne_nil hcount) nodup_components_probe
  have hsame : SameShape axis g.grid g'.grid :=
    hgrid ▸ sameShape_probe hcheck (by simpa using hshrink)
  have hcheck' : g'.grid.check = .ok () := hgrid ▸ check_probe hspans
  have hgroups' : ∀ a, g'.grid.GroupsInside a := hgrid ▸ groupsInside_probe (hgroups axis)
  have hfit' : g'.grid.TotalsFit m axis := hgrid ▸ hfit
  obtain ⟨hpreferred, hminimum⟩ := answer_sizes_eq_ok h' hcheck' hgroups' m
  obtain ⟨minimum, preferred, hminimum', hpreferred', hle⟩ :=
    hall g' h' hsame ((h'.answer_eq_scan .validate).trans hcheck') hgroups' m hm hfit'
  obtain rfl := Except.ok.inj (hminimum.symm.trans hminimum')
  obtain rfl := Except.ok.inj (hpreferred.symm.trans hpreferred')
  rw [Size.along_ofPerAxis_ofFun, Size.along_ofPerAxis_ofFun, wrap_eq_self (hfit'.total _),
    wrap_eq_self (hfit'.total _), hgrid] at hle
  exact absurd hle hlt.not_ge

/-- **Minimum and preferred sizes**: if a grid may not shrink, or its components of several tracks
are nested, the minimum size is at most the preferred one for its shape. With fewer than `2 ^ 15`
tracks it is not so for any other shape. -/
theorem minimumSize_le_preferredSize_iff (h : g.Reachable)
    (hvalid : (g.answer .validate).1 = .ok ()) (hgroups : ∀ axis, g.grid.GroupsInside axis)
    (axis : Axis) :
    (g.grid.canShrink = false ∨ g.grid.Nested axis → g.ShapeOrdered axis) ∧
      (g.grid.count axis < 2 ^ 15 → g.ShapeOrdered axis →
        g.grid.canShrink = false ∨ g.grid.Nested axis) :=
  ⟨shapeOrdered_of_nested,
    nested_of_shapeOrdered ((h.answer_eq_scan .validate).symm.trans hvalid) hgroups⟩

/-! A usual grid of three columns and two rows. A component covers the first two columns, and there
is a group of the first column and the third. -/

def covered : CachedGrid :=
  let ops : List Operation :=
    [.addGroup .horizontal ⟨[0, 2], by decide, by decide⟩,
      .add ⟨1⟩ ⟨⟨0, 2, none, none⟩, .single 0⟩, .add ⟨2⟩ (.single 1 1)]
  ops.foldl CachedGrid.after (.ofGrid
    ⟨⟨⟨List.replicate 3 .defaultColumn, []⟩, ⟨List.replicate 2 .defaultRow, []⟩⟩, [], true⟩)

theorem reachable_covered : covered.Reachable := by
  have hgrid : Grid.ofDimensions 3 2 = .ok ⟨⟨⟨List.replicate 3 .defaultColumn, []⟩,
      ⟨List.replicate 2 .defaultRow, []⟩⟩, [], true⟩ := rfl
  exact (Reachable.ofDimensions hgrid).foldl _

theorem groupsInside_covered (axis : Axis) : covered.grid.GroupsInside axis := by
  unfold GroupsInside GroupsFit
  cases axis <;> decide +kernel

/-- No component of the grid covers several rows, so its minimum height is never above its
preferred height. -/
theorem minimumSize_covered_le :
    covered.Reachable ∧ (covered.answer .validate).1 = .ok () ∧
      ∀ m : Measures, m.Ordered → covered.grid.TotalsFit m .vertical → ∃ minimum preferred,
        (covered.answer (.minimumSize m)).1 = .ok minimum ∧
        (covered.answer (.preferredSize m)).1 = .ok preferred ∧
        minimum.height ≤ preferred.height := by
  have hvalid : (covered.answer .validate).1 = .ok () := by decide +kernel
  have hspanning : covered.grid.spanning .vertical = [] := by decide +kernel
  have hnested : covered.grid.Nested .vertical :=
    ⟨hspanning ▸ .nil, fun e he => by simp [hspanning] at he⟩
  have hall := (minimumSize_le_preferredSize_iff reachable_covered hvalid groupsInside_covered
    .vertical).1 (.inr hnested)
  exact ⟨reachable_covered, hvalid, hall covered reachable_covered ⟨rfl, rfl, rfl, rfl⟩ hvalid
    groupsInside_covered⟩

/-- Its minimum width is above its preferred width when a component that prefers the size of the
other one needs nothing. -/
theorem preferredSize_covered_lt :
    let m : Measures := ⟨Screen.default.metrics,
      fun _ axis => if axis = .horizontal then 100 else 0,
      fun id axis => if axis = .horizontal ∧ id.value = 1 then 100 else 0⟩
    covered.Reachable ∧ (covered.answer .validate).1 = .ok () ∧
      (∀ axis, covered.grid.GroupsInside axis) ∧ m.Ordered ∧
      (covered.answer (.preferredSize m)).1 = .ok ⟨100, 0⟩ ∧
      (covered.answer (.minimumSize m)).1 = .ok ⟨150, 0⟩ := by
  intro m
  have hm : m.Ordered := by
    intro id axis
    by_cases hid : id.value = 1 <;> cases axis <;> simp [m, hid]
  refine ⟨reachable_covered, ?_, groupsInside_covered, hm, ?_, ?_⟩ <;> decide +kernel

end CachedGrid

end GridLayout

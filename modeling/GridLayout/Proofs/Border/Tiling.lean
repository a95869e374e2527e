import GridLayout.Proofs.Grid.Accounting
import GridLayout.Proofs.Grid.Containment
import GridLayout.Proofs.Layout.History

/-!
# Border layouts as tilings

The components of a border layout fill their cells, so no two of them overlap, and all lie between
the margins. The centre alone takes what is left of the container. This holds in every container
that is laid out in 32 bits, also in one that is too small for the layout; the tracks then reach
beyond it.

* `Arrangement.space`: the rectangle of the cells that a placement covers.
* `BorderLayout.exists_arrange_iff`: when there is a layout.
* `Arrangement.IsTiling`: where the components are.
* `BorderLayout.isTiling_of_arrange`: they are there in every layout with any history.
-/

namespace GridLayout

open Finset

/-! ## Rectangles of cells -/

/-- Along an axis one of the rectangles ends before the other starts. -/
def Rect.Apart (r r' : Rect) : Prop := ∃ axis, r.EndsBefore axis r' ∨ r'.EndsBefore axis r

/-- A rectangle contains another if it does along each axis and both end where 32 bits reach. -/
theorem Rect.containsRect_of_within {r q : Rect}
    (hr : ∀ axis, Representable ((r.intervals.along axis).1 + (r.intervals.along axis).2))
    (hq : ∀ axis, Representable ((q.intervals.along axis).1 + (q.intervals.along axis).2))
    (h : ∀ axis, (r.intervals.along axis).1 ≤ (q.intervals.along axis).1 ∧
      (q.intervals.along axis).1 + (q.intervals.along axis).2 ≤
        (r.intervals.along axis).1 + (r.intervals.along axis).2) : r.containsRect q = true := by
  have hend (axis : Axis) := (wrap_eq_self (hq axis)).trans_le
    ((h axis).2.trans_eq (wrap_eq_self (hr axis)).symm)
  simp only [containsRect, Bool.and_eq_true, decide_eq_true_eq]
  exact ⟨⟨⟨(h .horizontal).1, (h .vertical).1⟩, hend .horizontal⟩, hend .vertical⟩

namespace Arrangement

/-- The rectangle of the cells that a placement covers. -/
def space (a : Arrangement) (p : Placement) : Rect :=
  .ofIntervals (.ofFun fun axis => ((a.positions.along axis).getD (p.along axis).start 0,
    (p.along axis).extent (a.sizes.along axis)))

/-- The rectangle of one cell. -/
def cell (a : Arrangement) (cell : PerAxis Nat) : Rect := a.space (cell.map Slot.single)

theorem intervals_space (a : Arrangement) (p : Placement) (axis : Axis) :
    (a.space p).intervals.along axis = ((a.positions.along axis).getD (p.along axis).start 0,
      (p.along axis).extent (a.sizes.along axis)) := by
  cases axis <;> rfl

/-- The extent of so many tracks from the first one on. -/
def offset (a : Arrangement) (axis : Axis) (n : Nat) : Int :=
  ∑ j ∈ range n, (a.sizes.along axis).getD j 0

end Arrangement

namespace Grid

variable {g : Grid} {m : Measures} {insets : Insets} {container : Size}

/-- A component that fills its cells has their rectangle, if 32 bits hold its extents. -/
theorem placed_eq_space {a : Arrangement} {e : Entry}
    (hextent : ∀ axis, Representable ((e.placement.along axis).extent (a.sizes.along axis)))
    (hfill : ∀ axis, (g.governing (e.placement.along axis) axis).alignment = .fill) :
    g.placed m a.sizes a.positions e = (e.id, a.space e.placement) := by
  have hinterval (axis : Axis) :
      g.interval m axis e (a.sizes.along axis) (a.positions.along axis) =
        ((a.positions.along axis).getD (e.placement.along axis).start 0,
          (e.placement.along axis).extent (a.sizes.along axis)) := by
    simp only [interval, hfill axis, Alignment.interval, wrap_eq_self (hextent axis)]
  simp only [placed, hinterval, Arrangement.space]

/-- The tracks follow one another. -/
theorem positions_eq_of_arranged {a : Arrangement} (ha : a = g.arranged m insets container)
    (axis : Axis) :
    a.positions.along axis = positions (insets.leading axis) (a.sizes.along axis) := by
  rw [ha, positions_arranged, sizes_arranged]

theorem positionsFit_arranged {a : Arrangement} (ha : a = g.arranged m insets container)
    {axis : Axis} (hfit : g.LayoutFits m axis insets container) :
    PositionsFit (insets.leading axis) (a.sizes.along axis) := by
  rw [ha, sizes_arranged]
  exact hfit.places.positions

section

variable {a : Arrangement} (hgroups : ∀ axis, g.GroupsInside axis)
  (ha : a = g.arranged m insets container) (hfit : ∀ axis, g.LayoutFits m axis insets container)
include hgroups ha hfit

/-- The rectangle of cells starts and ends where their tracks do. -/
theorem space_arranged {q : Placement} {axis : Axis}
    (hspan : (q.along axis).start < (q.along axis).stop)
    (hstop : (q.along axis).stop ≤ g.count axis) :
    ((a.space q).intervals.along axis).1 =
        insets.leading axis + a.offset axis (q.along axis).start ∧
      ((a.space q).intervals.along axis).1 + ((a.space q).intervals.along axis).2 =
        insets.leading axis + a.offset axis (q.along axis).stop := by
  have hlen : (a.sizes.along axis).length = g.count axis := by
    rw [ha, sizes_arranged, length_sharedSizes (hgroups axis)]
  have hpositions := positionsFit_arranged ha (hfit axis)
  rw [Arrangement.intervals_space, positions_eq_of_arranged ha axis]
  constructor
  · exact getD_positions hpositions (by omega)
  · exact getD_positions_add_extent hpositions (Nat.pos_of_lt_add_right hspan) (hlen ▸ hstop)

theorem cell_arranged (cell : PerAxis Nat) {axis : Axis} (h : cell.along axis < g.count axis) :
    ((a.cell cell).intervals.along axis).1 =
        insets.leading axis + a.offset axis (cell.along axis) ∧
      ((a.cell cell).intervals.along axis).1 + ((a.cell cell).intervals.along axis).2 =
        insets.leading axis + a.offset axis (cell.along axis + 1) := by
  have hslot : (cell.map Slot.single).along axis = .single (cell.along axis) :=
    PerAxis.along_map ..
  have hspan : ((cell.map Slot.single).along axis).start <
      ((cell.map Slot.single).along axis).stop := by
    rw [hslot]
    exact Nat.lt_succ_self _
  have hstop : ((cell.map Slot.single).along axis).stop ≤ g.count axis := by
    rw [hslot]
    exact h
  have hspace := space_arranged hgroups ha hfit hspan hstop
  rwa [hslot] at hspace

end

end Grid

/-! ## Border layouts -/

namespace BorderProperties

open BorderRegion

/-- A component leaves its former region and enters one that no other occupies. -/
theorem NodupRegions.add {p p' : BorderProperties} (h : p.NodupRegions) {id : ComponentId}
    {region : BorderRegion} (hadd : p.add id region = .ok p') : p'.NodupRegions := by
  unfold BorderProperties.add at hadd
  split at hadd
  · cases hadd
  · next hfree =>
    obtain rfl := Except.ok.inj hadd
    have hother {entry : ComponentId × BorderRegion}
        (he : entry ∈ p.regions.filter fun entry => entry.1 != id) :
        entry.1 ≠ id ∧ entry.2 ≠ region := by
      obtain ⟨he, hid⟩ := List.mem_filter.1 he
      have hregion := List.find?_eq_none.1 hfree entry he
      simp only [bne_iff_ne, Bool.and_eq_true, beq_iff_eq, not_and] at hid hregion
      exact ⟨hid, fun heq => hregion heq hid⟩
    constructor
    · rw [List.map_append, List.nodup_append]
      refine ⟨h.ids.sublist (List.filter_sublist.map _), List.nodup_singleton _, ?_⟩
      rintro _ hkept _ hnew rfl
      obtain ⟨entry, he, rfl⟩ := List.mem_map.1 hkept
      exact (hother he).1 (List.mem_singleton.1 hnew)
    · rw [List.map_append, List.nodup_append]
      refine ⟨h.regions.sublist (List.filter_sublist.map _), List.nodup_singleton _, ?_⟩
      rintro _ hkept _ hnew rfl
      obtain ⟨entry, he, rfl⟩ := List.mem_map.1 hkept
      exact (hother he).2 (List.mem_singleton.1 hnew)

/-- No edit registers a component twice or lets two of them take one region. -/
theorem nodupRegions_after (b : BorderLayout) (edit : BorderEdit) (h : b.properties.NodupRegions) :
    (b.after edit).properties.NodupRegions := by
  have hadd (id : ComponentId) (region : BorderRegion) :
      (b.after (.add id region)).properties.NodupRegions := by
    rcases b.after_add id region with hrefused | ⟨p, hp, hadded⟩
    · rwa [hrefused]
    · rw [hadded]
      exact h.add hp
  cases edit with
  | setSpacing | setCanShrink => exact ⟨h.ids, h.regions⟩
  | add id region => exact hadd id region
  | addNamed id name =>
    rcases b.after_addNamed id name with hrefused | ⟨region, hnamed⟩
    · rwa [hrefused]
    · rw [hnamed]
      exact hadd id region
  | remove id =>
    simp only [BorderLayout.after, BorderLayout.remove]
    split
    · exact ⟨h.ids.sublist (List.filter_sublist.map _),
        h.regions.sublist (List.filter_sublist.map _)⟩
    · exact h

end BorderProperties

/-- The components of a border layout tile the space between its margins: every one has one
rectangle, which fills its cells, and no two of them overlap. The tracks follow one another; their
sizes are those of a pass, but that the centre takes what is left. -/
structure Arrangement.IsTiling (a : Arrangement) (p : BorderProperties) (m : Measures)
    (insets : Insets) (content : Size) (base : PerAxis (List Int)) : Prop where
  ids : (a.bounds.map Prod.fst).Perm (p.regions.map Prod.fst)
  nodup : (a.bounds.map Prod.fst).Nodup
  bounds : a.bounds = p.entries.map fun e => (e.id, a.space e.placement)
  apart : a.bounds.Pairwise fun entry entry' => entry.2.Apart entry'.2
  inside : ∀ entry ∈ a.bounds, ∀ axis,
    insets.leading axis + (p.spacing.margin (.leading axis)).toPixels m.metrics axis ≤
        (entry.2.intervals.along axis).1 ∧
      (entry.2.intervals.along axis).1 + (entry.2.intervals.along axis).2 +
          (p.spacing.margin (.trailing axis)).toPixels m.metrics axis ≤
        insets.leading axis + max (total (base.along axis)) (content.along axis)
  sizes : ∀ axis, (a.sizes.along axis).length = 7 ∧
    (∀ i, i ≠ BorderProperties.centerIndex →
      (a.sizes.along axis).getD i 0 = (base.along axis).getD i 0) ∧
    total (a.sizes.along axis) = max (total (base.along axis)) (content.along axis)
  positions : ∀ axis,
    a.positions.along axis = GridLayout.positions (insets.leading axis) (a.sizes.along axis)
  contains : ∀ id cell, p.Covers id cell → ∃ r, (id, r) ∈ a.bounds ∧ r.containsRect (a.cell cell)
  corner : ∀ x y cell, BorderRegion.Meet x y cell → ∀ id id',
    [(id, x), (id', y)].Sublist p.regions → p.Covers id cell
  covered : p.occupied .center = true → ∀ cell, BorderRegion.IsRegionCell cell →
    ∃! id, p.Covers id cell

namespace BorderProperties.IsGrid

open BorderRegion

variable {p : BorderProperties} {g : Grid} {m : Measures} {insets : Insets} {container : Size}
  {a : Arrangement} (h : p.IsGrid g) (ha : a = g.arranged m insets container)
  (hfit : ∀ axis, g.LayoutFits m axis insets container)
include h ha hfit

/-! ## The tracks -/

/-- The centre alone takes what is left of the container. -/
theorem sizes_arranged (axis : Axis) :
    let content := (insets.shrink container).along axis
    let base := g.equalizedSizes m (g.fittingPass m axis content) axis
    g.Accounts m axis content base (a.sizes.along axis) ∧ (a.sizes.along axis).length = 7 ∧
      (∀ i, i ≠ centerIndex → (a.sizes.along axis).getD i 0 = base.getD i 0) ∧
      total (a.sizes.along axis) = max (total base) content := by
  intro content base
  have haccounts : g.Accounts m axis content base (a.sizes.along axis) := by
    rw [ha, Grid.sizes_arranged]
    exact Grid.accounts_sharedSizes m (h.groupsInside axis) (hfit axis).sizing
  refine ⟨haccounts, haccounts.length_eq.trans (h.count_eq axis), fun i hi => ?_,
    haccounts.total_of_weighted ⟨centerIndex, h.isWeighted_iff.2 rfl⟩⟩
  by_contra hne
  exact hi (h.isWeighted_iff.1 (haccounts.isWeighted i hne))

/-- The first track holds the leading margin. -/
theorem margin_le_offset_one (axis : Axis) :
    (p.spacing.margin (leading axis)).toPixels m.metrics axis ≤ a.offset axis 1 := by
  obtain ⟨hmargin, _, _, _, htracks⟩ := h.tracks_eq axis
  rw [Arrangement.offset, sum_range_one]
  exact (h.sizes_arranged ha hfit axis).1.minimum_le 0
    (.strip (p.spacing.margin (leading axis)) hmargin .zero) (by rw [htracks]; rfl)

/-- The last track holds the trailing margin. -/
theorem offset_six_add_margin_le (axis : Axis) :
    a.offset axis 6 + (p.spacing.margin (trailing axis)).toPixels m.metrics axis ≤
      total (a.sizes.along axis) := by
  obtain ⟨_, _, _, hmargin, htracks⟩ := h.tracks_eq axis
  obtain ⟨haccounts, hlength, -⟩ := h.sizes_arranged ha hfit axis
  rw [total_eq_sum, hlength, sum_range_succ]
  exact Int.add_le_add_left (haccounts.minimum_le 6
    (.strip (p.spacing.margin (trailing axis)) hmargin .zero) (by rw [htracks]; rfl)) _

/-- More tracks do not have a smaller extent. -/
theorem offset_mono (hspacing : p.SpacingNonneg m.metrics) (axis : Axis) {i j : Nat}
    (hij : i ≤ j) : a.offset axis i ≤ a.offset axis j := by
  refine sum_le_sum_of_subset_of_nonneg (range_mono hij) fun k _ _ => ?_
  rw [ha, Grid.sizes_arranged]
  exact Grid.sharedSizes_nonneg (h.groupsInside axis) (hfit axis).sizing
    (fun _ => h.minimum_nonneg hspacing) k

/-- The tracks start and end where 32 bits reach. -/
theorem representable_offset (axis : Axis) {i : Nat} (hi : i ≤ 7) :
    Representable (insets.leading axis + a.offset axis i) := by
  have hlength := (h.sizes_arranged ha hfit axis).2.1
  exact Grid.positionsFit_arranged ha (hfit axis) i (hlength ▸ hi)

/-! ## The rectangles -/

variable (hnodup : p.NodupRegions)
include hnodup

/-- Every component has the rectangle of its cells. -/
theorem bounds_arranged : a.bounds = p.entries.map fun e => (e.id, a.space e.placement) := by
  have hbounds : a.bounds = g.components.map (g.placed m a.sizes a.positions) := by
    rw [ha]
    rfl
  rw [hbounds, ← h.components]
  refine List.map_congr_left fun e he => Grid.placed_eq_space (fun axis => ?_)
    fun axis => h.alignment_governing hnodup he axis
  rw [ha, Grid.sizes_arranged]
  exact (hfit axis).places.extent e he

/-- The rectangle of a component starts and ends where its tracks do. -/
theorem space_placement {e : Entry} (he : e ∈ p.entries) (axis : Axis) :
    ((a.space e.placement).intervals.along axis).1 =
        insets.leading axis + a.offset axis (e.placement.along axis).start ∧
      ((a.space e.placement).intervals.along axis).1 +
          ((a.space e.placement).intervals.along axis).2 =
        insets.leading axis + a.offset axis (e.placement.along axis).stop := by
  obtain ⟨-, hspan, hstop, -⟩ := h.along_placement hnodup (h.components ▸ he) axis
  have hcount := h.count_eq axis
  exact Grid.space_arranged h.groupsInside ha hfit hspan (by omega)

variable (hspacing : p.SpacingNonneg m.metrics)
include hspacing

/-- Placements without a common cell have rectangles that do not overlap. -/
theorem apart_space {e e' : Entry} (he : e ∈ p.entries) (he' : e' ∈ p.entries)
    (hapart : e.placement.Apart e'.placement) :
    Rect.Apart (a.space e.placement) (a.space e'.placement) := by
  obtain ⟨axis, haxis⟩ := hapart
  obtain ⟨hstart, hstop⟩ := h.space_placement ha hfit hnodup he axis
  obtain ⟨hstart', hstop'⟩ := h.space_placement ha hfit hnodup he' axis
  have hmono {i j : Nat} (hij : i ≤ j) := h.offset_mono ha hfit hspacing axis hij
  unfold Rect.Apart Rect.EndsBefore
  refine ⟨axis, haxis.imp (fun hbefore => ?_) fun hbefore => ?_⟩
  · have hle := hmono hbefore
    omega
  · have hle := hmono hbefore
    omega

/-- No component reaches into the margins. -/
theorem inside_space {e : Entry} (he : e ∈ p.entries) (axis : Axis) :
    insets.leading axis + (p.spacing.margin (leading axis)).toPixels m.metrics axis ≤
        ((a.space e.placement).intervals.along axis).1 ∧
      ((a.space e.placement).intervals.along axis).1 +
          ((a.space e.placement).intervals.along axis).2 +
          (p.spacing.margin (trailing axis)).toPixels m.metrics axis ≤
        insets.leading axis + total (a.sizes.along axis) := by
  obtain ⟨hfirst, -, hlast, -⟩ := h.along_placement hnodup (h.components ▸ he) axis
  obtain ⟨hstart, hstop⟩ := h.space_placement ha hfit hnodup he axis
  have hmono {i j : Nat} (hij : i ≤ j) := h.offset_mono ha hfit hspacing axis hij
  have hleading := (h.margin_le_offset_one ha hfit axis).trans (hmono hfirst)
  have htrailing := h.offset_six_add_margin_le ha hfit axis
  have hbefore := hmono hlast
  constructor <;> omega

/-- A component contains the cells that it covers. -/
theorem containsRect_space {e : Entry} (he : e ∈ p.entries) {cell : PerAxis Nat}
    (hcovers : e.placement.Covers cell) :
    (a.space e.placement).containsRect (a.cell cell) = true := by
  have hspace := h.space_placement ha hfit hnodup he
  have hslot (axis : Axis) := h.along_placement hnodup (h.components ▸ he) axis
  have hlt (axis : Axis) : cell.along axis < 7 := by
    have hcovered := (hcovers axis).2
    have hstop := (hslot axis).2.2.1
    omega
  have hcell (axis : Axis) :=
    Grid.cell_arranged h.groupsInside ha hfit cell (h.count_eq axis ▸ hlt axis)
  refine Rect.containsRect_of_within (fun axis => ?_) (fun axis => ?_) fun axis => ?_
  · rw [(hspace axis).2]
    exact h.representable_offset ha hfit axis (by have := (hslot axis).2.2.1; omega)
  · rw [(hcell axis).2]
    exact h.representable_offset ha hfit axis (hlt axis)
  · obtain ⟨hfirst, hlast⟩ := hcovers axis
    obtain ⟨hstart, hstop⟩ := hspace axis
    obtain ⟨hstart', hstop'⟩ := hcell axis
    have hmono {i j : Nat} (hij : i ≤ j) := h.offset_mono ha hfit hspacing axis hij
    have hbefore := hmono hfirst
    have hafter : a.offset axis (cell.along axis + 1) ≤ _ := hmono hlast
    constructor <;> omega

/-- **The components tile the space between the margins** in every layout of a grid that was made
from the properties. -/
theorem isTiling_arranged :
    let content := insets.shrink container
    a.IsTiling p m insets content
      (.ofFun fun axis => g.equalizedSizes m (g.fittingPass m axis (content.along axis)) axis) := by
  intro content
  have hbounds := h.bounds_arranged ha hfit hnodup
  have hids : (a.bounds.map Prod.fst).Perm (p.regions.map Prod.fst) := by
    rw [hbounds, List.map_map]
    exact map_id_entries hnodup.regions
  have hsizes (axis : Axis) := (h.sizes_arranged ha hfit axis).2
  constructor
  · exact hids
  · exact hids.nodup_iff.2 hnodup.ids
  · exact hbounds
  · rw [hbounds, List.pairwise_map]
    exact (pairwise_apart_entries hnodup.regions).imp_of_mem fun he he' hapart =>
      h.apart_space ha hfit hnodup hspacing he he' hapart
  · intro entry hentry axis
    rw [hbounds] at hentry
    obtain ⟨e, he, rfl⟩ := List.mem_map.1 hentry
    rw [PerAxis.along_ofFun, ← (hsizes axis).2.2]
    exact h.inside_space ha hfit hnodup hspacing he axis
  · intro axis
    rw [PerAxis.along_ofFun]
    exact hsizes axis
  · exact Grid.positions_eq_of_arranged ha
  · rintro id cell ⟨e, he, rfl, hcovers⟩
    refine ⟨_, ?_, h.containsRect_space ha hfit hnodup hspacing he hcovers⟩
    rw [hbounds]
    exact List.mem_map_of_mem he
  · intro x y cell hmeet id id' hregistered
    exact covers_of_meet hnodup.regions hmeet hregistered
  · intro hcenter cell hcell
    exact existsUnique_covers hnodup.regions hcell hcenter

end BorderProperties.IsGrid

theorem Layout.Reaches.nodupRegions {b : BorderLayout}
    (h : (Layout.border .new).Reaches (.border b)) : b.properties.NodupRegions := by
  obtain ⟨b', hb, hnodup⟩ := h.border (P := BorderProperties.NodupRegions)
    ⟨List.nodup_nil, List.nodup_nil⟩ BorderProperties.nodupRegions_after
  rwa [Layout.border.inj hb]

/-- A border layout can be laid out, in any container, exactly if no length that it uses is below
zero. -/
theorem BorderLayout.exists_arrange_iff {b : BorderLayout}
    (h : (Layout.border .new).Reaches (.border b)) (m : Measures) (insets : Insets)
    (container : Size) :
    (∃ a, ((Layout.border b).answer (.arrange m insets container)).1 = .ok a) ↔
      b.properties.LengthsNonneg := by
  rw [← BorderProperties.exists_build_iff]
  refine (h.fresh Layout.IsInitial.newBorder.fresh).exists_arrange_iff fun g hbuild => ?_
  have hgrid := BorderProperties.isGrid_of_build h.nodupRegions hbuild
  exact ⟨hgrid.check_eq_ok h.nodupRegions, hgrid.groupsInside⟩

/-- **Border layouts are tilings** in every container, with any history, as far as they are laid out
in 32 bits: every component has one rectangle, which fills the cells of its placement between the
margins, and no two of them overlap. Of two edges that meet in a corner the one registered earlier
covers it; with a component in the centre, every cell in the columns and the rows of the regions
belongs to one component. The tracks have the preferred sizes, or the minimum ones if the layout has
to shrink and may, and the centre takes what is left. Tracks that do not fit reach beyond the
container. -/
theorem BorderLayout.isTiling_of_arrange {b : BorderLayout}
    (h : (Layout.border .new).Reaches (.border b)) {m : Measures}
    (hspacing : b.properties.SpacingNonneg m.metrics) {insets : Insets} {container : Size}
    {a : Arrangement}
    (harrange : ((Layout.border b).answer (.arrange m insets container)).1 = .ok a)
    (hfit : ∀ axis, (Layout.border b).LayoutFits m axis insets container) :
    ∃ base : PerAxis (List Int),
      (∀ axis, ∃ preferred,
        ((Layout.border b).answer (.groupedSizes m .preferred axis)).1 = .ok preferred ∧
        ((Layout.border b).answer (.groupedSizes m
          (if b.properties.canShrink = false ∨
              total preferred ≤ (insets.shrink container).along axis then .preferred
            else .minimum) axis)).1 = .ok (base.along axis)) ∧
      a.IsTiling b.properties m insets (insets.shrink container) base := by
  have hfresh := h.fresh Layout.IsInitial.newBorder.fresh
  obtain ⟨g, hbuild, hcheck, hgroups, rfl⟩ := hfresh.arranged_of_answer harrange
  have hgrid := BorderProperties.isGrid_of_build h.nodupRegions hbuild
  have hanswer (pass : Pass) (axis : Axis) :
      ((Layout.border b).answer (.groupedSizes m pass axis)).1 =
        .ok (g.equalizedSizes m pass axis) := by
    rw [(hfresh.answer _).1, hbuild]
    exact (g.scanGroupedSizes_eq_ok_iff m pass axis).2 ⟨hcheck, hgroups axis, rfl⟩
  refine ⟨_, fun axis => ⟨_, hanswer .preferred axis, ?_⟩,
    hgrid.isTiling_arranged rfl (fun axis => hfit axis g hbuild) h.nodupRegions hspacing⟩
  rw [hanswer, PerAxis.along_ofFun, ← hgrid.canShrink, Grid.fittingPass,
    if_congr (hfit axis g hbuild).sizing.keepsPreferred_iff rfl rfl]

/-- A layout with a refused registration and a move in its history, which shrinks: the west was
taken before the south, and so the corner between them is its own. -/
theorem BorderLayout.isTiling_moved :
    let edits : List BorderEdit := [
      .setSpacing fun s => (s.setMargins (.pixels 2)).setGaps (.pixels 3), .add ⟨1⟩ .north,
      .add ⟨2⟩ .west, .add ⟨3⟩ .center, .add ⟨4⟩ .west, .add ⟨1⟩ .south]
    let b := edits.foldl BorderLayout.after .new
    let m := CachedGrid.multiples 40 1
    let a : Arrangement := ⟨⟨[2, 2, 3, 48, 0, 1, 2], [2, 2, 0, 48, 3, 1, 2]⟩,
      ⟨[1, 3, 5, 8, 56, 56, 57], [1, 3, 5, 5, 53, 56, 57]⟩,
      [(⟨2⟩, ⟨3, 3, 2, 54⟩), (⟨1⟩, ⟨8, 56, 49, 1⟩), (⟨3⟩, ⟨8, 3, 49, 50⟩)]⟩
    b.properties.SpacingNonneg m.metrics ∧
      ((Layout.border b).answer (.arrange m (.uniform 1) ⟨60, 60⟩)).1 = .ok a ∧
      (∃ base, a.IsTiling b.properties m (.uniform 1) ⟨58, 58⟩ base) ∧
      b.properties.Covers ⟨2⟩ ⟨1, 5⟩ := by
  intro edits b m a
  have hreaches : (Layout.border .new).Reaches (.border b) :=
    Layout.Reaches.refl.foldl (edits.map Layout.Step.border)
  have hspacing : b.properties.SpacingNonneg m.metrics := by
    intro axis
    cases axis <;> decide +kernel
  have harrange : ((Layout.border b).answer (.arrange m (.uniform 1) ⟨60, 60⟩)).1 = .ok a := by
    decide +kernel
  have hfit (axis : Axis) : (Layout.border b).LayoutFits m axis (.uniform 1) ⟨60, 60⟩ := by
    cases axis <;> decide +kernel
  obtain ⟨base, -, htiling⟩ := isTiling_of_arrange hreaches hspacing harrange hfit
  have hmeet : BorderRegion.Meet .west .south ⟨1, 5⟩ := ⟨.horizontal, by decide⟩
  refine ⟨hspacing, harrange, ⟨base, htiling⟩, ?_⟩
  exact htiling.corner .west .south ⟨1, 5⟩ hmeet ⟨2⟩ ⟨1⟩ (by decide +kernel)

/-- A component that does not fit reaches beyond a container that is too small for it. Components
whose widths together are not held in 32 bits are put over each other. -/
theorem BorderLayout.beyond_container :
    (let b := BorderLayout.new.after (.add ⟨1⟩ .center)
      let m := CachedGrid.multiples 100 100
      (Layout.border .new).Reaches (.border b) ∧ b.properties.SpacingNonneg m.metrics ∧
        ∃ a, ((Layout.border b).answer (.arrange m .zero ⟨50, 50⟩)).1 = .ok a ∧
          ¬∀ entry ∈ a.bounds, ∀ axis, (entry.2.intervals.along axis).1 +
            (entry.2.intervals.along axis).2 +
              (b.properties.spacing.margin (.trailing axis)).toPixels m.metrics axis ≤
                Insets.zero.leading axis + (Insets.zero.shrink ⟨50, 50⟩).along axis) ∧
    (let edits : List BorderEdit :=
        [.setCanShrink false, .add ⟨1⟩ .west, .add ⟨2⟩ .center, .add ⟨3⟩ .east]
      let b := edits.foldl BorderLayout.after .new
      let m : Measures := ⟨Screen.default.metrics,
        fun _ axis => if axis = .horizontal then 2000000000 else 10, fun _ _ => 10⟩
      (Layout.border .new).Reaches (.border b) ∧ b.properties.SpacingNonneg m.metrics ∧
        ∃ a, ((Layout.border b).answer (.arrange m .zero ⟨100, 10⟩)).1 = .ok a ∧
          ¬a.bounds.Pairwise fun entry entry' => entry.2.Apart entry'.2) := by
  constructor
  · intro b m
    refine ⟨Layout.Reaches.refl.after (.border (.add ⟨1⟩ .center)), fun axis => ?_,
      ⟨⟨[0, 34, 0, 33, 0, 33, 0], [0, 34, 0, 33, 0, 33, 0]⟩,
        ⟨[0, 0, 34, 34, 67, 67, 100], [0, 0, 34, 34, 67, 67, 100]⟩, [(⟨1⟩, ⟨0, 0, 100, 100⟩)]⟩,
      by decide +kernel, fun hinside => ?_⟩
    · cases axis <;> decide +kernel
    · exact absurd (hinside _ (List.mem_singleton_self _) .horizontal) (by decide +kernel)
  · intro edits b m
    refine ⟨Layout.Reaches.refl.foldl (edits.map Layout.Step.border), fun axis => ?_,
      ⟨⟨[0, 2000000000, 0, 2000000000, 0, 2000000000, 0], [0, 4, 0, 3, 0, 3, 0]⟩,
        ⟨[0, 0, 2000000000, 2000000000, -294967296, -294967296, 1705032704],
          [0, 0, 4, 4, 7, 7, 10]⟩,
        [(⟨1⟩, ⟨0, 0, 2000000000, 10⟩), (⟨3⟩, ⟨-294967296, 0, 2000000000, 10⟩),
          (⟨2⟩, ⟨2000000000, 0, 2000000000, 10⟩)]⟩, by decide +kernel, fun hapart => ?_⟩
    · cases axis <;> decide +kernel
    · -- the east lies over the west along both axes
      obtain ⟨axis, hbefore⟩ := List.rel_of_pairwise_cons hapart List.mem_cons_self
      unfold Rect.EndsBefore at hbefore
      cases axis <;> exact absurd hbefore (by decide)

end GridLayout

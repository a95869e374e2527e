import GridLayout.Proofs.Grid.Growth
import GridLayout.Proofs.Sizing.Shares

/-!
# Arrangements in closed form

A grid can be laid out exactly if it has no fault and its groups lie inside its tracks, whatever the
components measure and however small the container is. The result can then be written without the
steps that may fail.

* `Grid.fittingPass`: the pass whose sizes are laid out in a container.
* `Grid.scanSizesIn_eq_ok_iff` and `Grid.scanArrange_eq_ok_iff`: when there is a layout, and which
  one it is (`Grid.sharedSizes`, `Grid.arranged`).
* `Grid.SizingFits`, `Grid.PlacesFit` and `Grid.LayoutFits`: what has to be held in 32 bits for the
  sizes and the rectangles along an axis to be what they are without a limit.
* `Grid.BoundedBy.layoutFits`: it can be held if no length is negative and all are small enough.
-/

namespace GridLayout

open Finset

/-- How far from the start of its space an extent is placed that leaves so much of it. -/
def Alignment.offset : Alignment → Int → Int
  | .fill, _ | .leading, _ => 0
  | .center, slack => slack / 2
  | .trailing, slack => slack

theorem Alignment.offset_bounds (alignment : Alignment) (slack : Int) :
    min 0 slack ≤ alignment.offset slack ∧ alignment.offset slack ≤ max 0 slack := by
  cases alignment <;> simp only [offset] <;> omega

namespace Grid

variable (g : Grid) (m : Measures)

/-! ## Sizes in a container -/

/-- The grid does not shrink along the axis: it may not, or it has room for the preferred sizes. -/
def KeepsPreferred (axis : Axis) (container : Int) : Prop :=
  g.canShrink = false ∨ wrap (total (g.equalizedSizes m .preferred axis)) ≤ container

instance (axis : Axis) (container : Int) : Decidable (g.KeepsPreferred m axis container) :=
  inferInstanceAs (Decidable (_ ∨ _))

/-- The pass whose sizes are laid out in a container. -/
def fittingPass (axis : Axis) (container : Int) : Pass :=
  if g.KeepsPreferred m axis container then .preferred else .minimum

/-- The sizes in a container, if the grid has no fault and its groups lie inside. -/
def sharedSizes (axis : Axis) (container : Int) : List Int :=
  shareOut (g.equalizedSizes m (g.fittingPass m axis container) axis) container (g.tracks axis)
    (g.weightSum axis)

theorem changedAt_sharedSizes (axis : Axis) (container : Int) :
    ChangedAt (IsWeighted (g.tracks axis))
      (g.equalizedSizes m (g.fittingPass m axis container) axis) (g.sharedSizes m axis container) :=
  changedAt_shareOut _ _ _ _

theorem shrinks_iff {axis : Axis} {container : Int} :
    (container < wrap (total (g.equalizedSizes m .preferred axis)) ∧ g.canShrink = true) ↔
      ¬g.KeepsPreferred m axis container := by
  unfold KeepsPreferred
  cases g.canShrink <;> simp

/-- A grid with sizes with groups has sizes in every container. -/
theorem scanSizesIn_eq_ok {axis : Axis} (hcheck : g.check = .ok ()) (hgroups : g.GroupsInside axis)
    (container : Int) :
    g.scanSizesIn m axis container = .ok (g.sharedSizes m axis container) := by
  have hgrouped (pass : Pass) : g.scanGroupedSizes m pass axis =
      .ok (g.equalizedSizes m pass axis) :=
    (g.scanGroupedSizes_eq_ok_iff m pass axis).2 ⟨hcheck, hgroups, rfl⟩
  unfold scanSizesIn
  simp only [hgrouped, bind, Except.bind, shrinks_iff g m]
  by_cases hkeeps : g.KeepsPreferred m axis container
  · have hpass : g.fittingPass m axis container = .preferred := if_pos hkeeps
    simp only [hkeeps, not_true_eq_false, if_false, sharedSizes, hpass]
    rfl
  · have hpass : g.fittingPass m axis container = .minimum := if_neg hkeeps
    simp only [hkeeps, not_false_eq_true, if_true, sharedSizes, hpass]
    rfl

/-- There are sizes in a container exactly if there are sizes with groups. -/
theorem scanSizesIn_eq_ok_iff {axis : Axis} {container : Int} {sizes : List Int} :
    g.scanSizesIn m axis container = .ok sizes ↔
      g.check = .ok () ∧ g.GroupsInside axis ∧ sizes = g.sharedSizes m axis container := by
  constructor
  · intro hsizes
    rcases hpreferred : g.scanGroupedSizes m .preferred axis with fault | preferred
    · simp [scanSizesIn, hpreferred, bind, Except.bind] at hsizes
    · obtain ⟨hcheck, hgroups, -⟩ := (g.scanGroupedSizes_eq_ok_iff m .preferred axis).1 hpreferred
      rw [g.scanSizesIn_eq_ok m hcheck hgroups] at hsizes
      exact ⟨hcheck, hgroups, (Except.ok.inj hsizes).symm⟩
  · rintro ⟨hcheck, hgroups, rfl⟩
    exact g.scanSizesIn_eq_ok m hcheck hgroups container

/-! ## Rectangles -/

/-- The start and the extent of a component along an axis. -/
def interval (axis : Axis) (e : Entry) (sizes positions : List Int) : Int × Int :=
  let slot := e.placement.along axis
  (g.governing slot axis).alignment.interval (positions.getD slot.start 0)
    (wrap (slot.extent sizes)) (g.claim m .preferred axis e)

/-- The rectangle of a component whose slots lie inside. -/
def placed (sizes positions : PerAxis (List Int)) (e : Entry) : ComponentId × Rect :=
  (e.id, .ofIntervals (.ofFun fun axis =>
    g.interval m axis e (sizes.along axis) (positions.along axis)))

theorem bound_eq_ok {sizes positions : PerAxis (List Int)} {e : Entry}
    (h : ∀ axis, (e.placement.along axis).stop ≤ (sizes.along axis).length) :
    g.bound m sizes positions e = .ok (g.placed m sizes positions e) := by
  have hh := h .horizontal
  have hv := h .vertical
  simp only [PerAxis.along] at hh hv
  simp [bound, align, PerAxis.along, hh, hv, bind, Except.bind, pure, Except.pure, placed, interval,
    PerAxis.ofFun]

/-! ## Layouts -/

/-- The layout in a container, if the grid has no fault and its groups lie inside. -/
def arranged (insets : Insets) (container : Size) : Arrangement :=
  let sizes : PerAxis (List Int) :=
    .ofFun fun axis => g.sharedSizes m axis ((insets.shrink container).along axis)
  let positions : PerAxis (List Int) :=
    .ofFun fun axis => positions (insets.leading axis) (sizes.along axis)
  ⟨sizes, positions, g.components.map (g.placed m sizes positions)⟩

variable {g m} {insets : Insets} {container : Size} {axis : Axis}

theorem sizes_arranged : (g.arranged m insets container).sizes.along axis =
    g.sharedSizes m axis ((insets.shrink container).along axis) := by
  simp [arranged]

theorem positions_arranged : (g.arranged m insets container).positions.along axis =
    positions (insets.leading axis)
      (g.sharedSizes m axis ((insets.shrink container).along axis)) := by
  simp [arranged]

theorem getElem?_bounds_arranged {i : Nat} {e : Entry} (he : g.components[i]? = some e) :
    (g.arranged m insets container).bounds[i]? =
      some (g.placed m (g.arranged m insets container).sizes
        (g.arranged m insets container).positions e) := by
  simp [arranged, he]

theorem intervals_placed (sizes positions : PerAxis (List Int)) (e : Entry) (axis : Axis) :
    (g.placed m sizes positions e).2.intervals.along axis =
      g.interval m axis e (sizes.along axis) (positions.along axis) := by
  cases axis <;> rfl

theorem length_sharedSizes (h : g.GroupsInside axis) (container : Int) :
    (g.sharedSizes m axis container).length = g.count axis := by
  rw [(g.changedAt_sharedSizes m axis container).length_eq, length_equalizedSizes m _ h]

/-- A grid with no fault whose groups lie inside is laid out in every container. -/
theorem scanArrange_eq_ok (hcheck : g.check = .ok ()) (hgroups : ∀ axis, g.GroupsInside axis)
    (insets : Insets) (container : Size) :
    g.scanArrange m insets container = .ok (g.arranged m insets container) := by
  have hsizes (axis : Axis) := g.scanSizesIn_eq_ok m hcheck (hgroups axis)
  unfold scanArrange
  simp only [hsizes, bind, Except.bind]
  rw [mapM_eq_pure (g.placed m _ _) fun e he => g.bound_eq_ok m fun axis => ?_]
  · rfl
  · have hstop := (fits_of_check hcheck he).stop_le axis
    cases axis <;> simpa [PerAxis.along, length_sharedSizes (hgroups _)] using hstop

/-- A grid with sizes along both axes has no fault, and all groups lie inside. -/
theorem check_and_groupsInside_of_sizes {width height : Int} {columns rows : List Int}
    (hcolumns : g.scanSizesIn m .horizontal width = .ok columns)
    (hrows : g.scanSizesIn m .vertical height = .ok rows) :
    g.check = .ok () ∧ ∀ axis, g.GroupsInside axis := by
  obtain ⟨hcheck, hhorizontal, -⟩ := (g.scanSizesIn_eq_ok_iff m).1 hcolumns
  obtain ⟨-, hvertical, -⟩ := (g.scanSizesIn_eq_ok_iff m).1 hrows
  refine ⟨hcheck, fun axis => ?_⟩
  cases axis with
  | horizontal => exact hhorizontal
  | vertical => exact hvertical

/-- There is a layout exactly if the grid has no fault and all groups lie inside. -/
theorem scanArrange_eq_ok_iff {a : Arrangement} :
    g.scanArrange m insets container = .ok a ↔
      g.check = .ok () ∧ (∀ axis, g.GroupsInside axis) ∧ a = g.arranged m insets container := by
  constructor
  · intro harrange
    rcases hcolumns : g.scanSizesIn m .horizontal (insets.shrink container).width with _ | columns
    · simp [scanArrange, hcolumns, bind, Except.bind] at harrange
    rcases hrows : g.scanSizesIn m .vertical (insets.shrink container).height with _ | rows
    · simp [scanArrange, hcolumns, hrows, bind, Except.bind] at harrange
    obtain ⟨hcheck, hgroups⟩ := check_and_groupsInside_of_sizes hcolumns hrows
    rw [scanArrange_eq_ok hcheck hgroups] at harrange
    exact ⟨hcheck, hgroups, (Except.ok.inj harrange).symm⟩
  · rintro ⟨hcheck, hgroups, rfl⟩
    exact scanArrange_eq_ok hcheck hgroups insets container

/-! ## Layouts in 32 bits -/

variable (g m) (axis)

/-- The sizes of an axis in a container are found in 32 bits: these hold the total by which it is
decided whether the axis shrinks, what the pass for it takes, and the sizes with their shares. -/
structure SizingFits (container : Int) : Prop where
  total : Representable (total (g.equalizedSizes m .preferred axis))
  pass : g.PassFits m (g.fittingPass m axis container) axis
  shares : SharesFit (g.equalizedSizes m (g.fittingPass m axis container) axis) container
    (g.tracks axis) (g.weightSum axis)

/-- What a component leaves of its cells. -/
def slack (sizes : List Int) (e : Entry) : Int :=
  (e.placement.along axis).extent sizes - g.claim m .preferred axis e

/-- Components are placed along an axis in 32 bits: these hold where the tracks start and end, and
for each component the extent of its cells, what it leaves of that on both sides if it is centered,
and where it starts. -/
structure PlacesFit (start : Int) (sizes : List Int) : Prop where
  positions : PositionsFit start sizes
  extent : ∀ e ∈ g.components, Representable ((e.placement.along axis).extent sizes)
  slack : ∀ e ∈ g.components, (g.governing (e.placement.along axis) axis).alignment = .center →
    Representable (g.slack m axis sizes e)
  aligned : ∀ e ∈ g.components,
    Representable (start + ∑ j ∈ range (e.placement.along axis).start, sizes.getD j 0 +
      (g.governing (e.placement.along axis) axis).alignment.offset (g.slack m axis sizes e))

/-- An axis is laid out in 32 bits. -/
structure LayoutFits (insets : Insets) (container : Size) : Prop where
  sizing : g.SizingFits m axis ((insets.shrink container).along axis)
  places : g.PlacesFit m axis (insets.leading axis)
    (g.sharedSizes m axis ((insets.shrink container).along axis))

variable {g m axis}

instance (container : Int) : Decidable (g.SizingFits m axis container) :=
  decidable_of_iff (_ ∧ _ ∧ _) ⟨fun h => ⟨h.1, h.2.1, h.2.2⟩, fun h => ⟨h.1, h.2, h.3⟩⟩

instance (start : Int) (sizes : List Int) : Decidable (g.PlacesFit m axis start sizes) :=
  decidable_of_iff (_ ∧ _ ∧ _ ∧ _)
    ⟨fun h => ⟨h.1, h.2.1, h.2.2.1, h.2.2.2⟩, fun h => ⟨h.1, h.2, h.3, h.4⟩⟩

instance (insets : Insets) (container : Size) : Decidable (g.LayoutFits m axis insets container) :=
  decidable_of_iff (_ ∧ _) ⟨fun h => ⟨h.1, h.2⟩, fun h => ⟨h.1, h.2⟩⟩

theorem SizingFits.keepsPreferred_iff {container : Int} (h : g.SizingFits m axis container) :
    g.KeepsPreferred m axis container ↔
      g.canShrink = false ∨ GridLayout.total (g.equalizedSizes m .preferred axis) ≤ container := by
  rw [KeepsPreferred, wrap_eq_self h.total]

/-- Only tracks with a weight are larger than in their pass. -/
theorem SizingFits.grownAt {container : Int} (h : g.SizingFits m axis container) :
    GrownAt (IsWeighted (g.tracks axis))
      (g.equalizedSizes m (g.fittingPass m axis container) axis) (g.sharedSizes m axis container) :=
  grownAt_shareOut h.shares

variable (g) (axis) in
theorem weightSum_eq_sum : g.weightSum axis = ((g.tracks axis).map Track.weight).sum := rfl

/-- With a weight somewhere the tracks fill the container, if they are not larger in their pass. -/
theorem total_sharedSizes (hgroups : g.GroupsInside axis) {container : Int}
    (hfit : g.SizingFits m axis container) :
    GridLayout.total (g.sharedSizes m axis container) =
      if 0 < g.weightSum axis then
        max (GridLayout.total (g.equalizedSizes m (g.fittingPass m axis container) axis)) container
      else GridLayout.total (g.equalizedSizes m (g.fittingPass m axis container) axis) :=
  total_shareOut (length_equalizedSizes m _ hgroups) hfit.shares

/-! ## Layouts with bounded lengths -/

variable (g m) (axis) in
/-- Along the axis no length is negative or larger than the bound: neither the least size of a track
nor what a component claims. -/
structure BoundedBy (bound : Int) : Prop where
  nonneg : 0 ≤ bound
  minimum : ∀ track ∈ g.tracks axis, 0 ≤ track.minimum.toPixels m.metrics axis ∧
    track.minimum.toPixels m.metrics axis ≤ bound
  claim : ∀ pass, ∀ e ∈ g.components, 0 ≤ g.claim m pass axis e ∧ g.claim m pass axis e ≤ bound

namespace BoundedBy

variable {bound : Int} (h : g.BoundedBy m axis bound)

include h

theorem scanBaseSizes_bounds (pass : Pass) (i : Nat) : 0 ≤ (g.scanBaseSizes m pass axis).getD i 0 ∧
    (g.scanBaseSizes m pass axis).getD i 0 ≤ bound := by
  cases htrack : (g.tracks axis)[i]? with
  | none => simp [scanBaseSizes, List.getD_eq_getElem?_getD, htrack, h.nonneg]
  | some track =>
    obtain ⟨hlow, hhigh⟩ := h.minimum track (List.mem_of_getElem? htrack)
    rw [g.getD_scanBaseSizes m pass axis htrack]
    refine ⟨hlow.trans (g.minimum_le_baseSize m pass axis track _), ?_⟩
    exact (g.baseSize_le_iff m pass axis track _ bound).2
      ⟨hhigh, fun e he => (h.claim pass e (List.mem_filter.1 he).1).2⟩

/-- In a pass the tracks take no more than the bound for each of them and each component. -/
theorem passFits (hcheck : g.check = .ok ()) (pass : Pass)
    (hbound : (g.count axis + g.components.length) * bound ≤ 2147483647) :
    g.PassFits m pass axis ∧ total (g.scanCellSizes m pass axis) ≤
      (g.count axis + g.components.length) * bound := by
  have hbase : total (g.scanBaseSizes m pass axis) ≤ g.count axis * bound := by
    simpa using total_le_of_le fun i => (h.scanBaseSizes_bounds pass i).2
  have hclaims : ((g.spanning axis).map fun e => max 0 (g.claim m pass axis e)).sum ≤
      g.components.length * bound := by
    have hsum := List.sum_le_card_nsmul
      ((g.spanning axis).map fun e => max 0 (g.claim m pass axis e)) bound fun n hn => by
        obtain ⟨e, he, rfl⟩ := List.mem_map.1 hn
        exact max_le h.nonneg (h.claim pass e (List.mem_filter.1 he).1).2
    have hlen : (g.spanning axis).length ≤ g.components.length := List.length_filter_le ..
    rw [List.length_map, nsmul_eq_mul] at hsum
    exact hsum.trans (mul_le_mul_of_nonneg_right (Int.ofNat_le.2 hlen) h.nonneg)
  rw [add_mul] at hbound ⊢
  have hinside (e : Entry) (he : e ∈ g.spanning axis) :
      (e.placement.along axis).stop ≤ g.count axis :=
    (fits_of_check hcheck (List.mem_filter.1 he).1).stop_le axis
  obtain ⟨hfits, hle⟩ : g.PassFits m pass axis ∧ total (g.scanCellSizes m pass axis) ≤
      total (g.scanBaseSizes m pass axis) +
        ((g.spanning axis).map fun e => max 0 (g.claim m pass axis e)).sum :=
    roomFitsInTurn_of_sum_le (g.length_scanBaseSizes m pass axis)
      (fun i => (h.scanBaseSizes_bounds pass i).1) hinside (by omega)
  exact ⟨hfits, by omega⟩

variable {extent : Int} (hcheck : g.check = .ok ()) (hgroups : g.GroupsInside axis)
  (hextent : g.count axis * ((g.count axis + g.components.length) * bound) ≤ extent)
  (hmax : extent ≤ 2147483647)

include hcheck hextent in
/-- One length for each track and each component is no more than the extent, as there is a track if
there are components. -/
theorem mul_le : (g.count axis + g.components.length) * bound ≤ extent := by
  refine le_trans ?_ hextent
  have hsum : 0 ≤ (g.count axis + g.components.length) * bound :=
    mul_nonneg (by omega) h.nonneg
  rcases Nat.eq_zero_or_pos (g.count axis) with hcount | hcount
  · -- a component would need a track
    have hnone : g.components = [] := List.eq_nil_iff_forall_not_mem.2 fun e he =>
      absurd ((fits_of_check hcheck he).start_lt axis) (by omega)
    simp [hcount, hnone]
  · exact le_mul_of_one_le_left hsum (by omega)

include hcheck hgroups hextent hmax

/-- With groups the tracks have sizes that are not negative, and take no more than the extent. -/
theorem equalizedSizes_bounds (pass : Pass) : (∀ i, 0 ≤ (g.equalizedSizes m pass axis).getD i 0) ∧
    total (g.equalizedSizes m pass axis) ≤ extent := by
  obtain ⟨hfits, htotal⟩ := h.passFits hcheck pass ((h.mul_le hcheck hextent).trans hmax)
  have hcells (i : Nat) : 0 ≤ (g.scanCellSizes m pass axis).getD i 0 :=
    (h.scanBaseSizes_bounds pass i).1.trans ((grownAt_scanCellSizes hfits).le i)
  have hbound (i : Nat) : (g.scanCellSizes m pass axis).getD i 0 ≤
      (g.count axis + g.components.length) * bound := by
    by_cases hi : i < (g.scanCellSizes m pass axis).length
    · exact (getD_le_total hcells hi).trans htotal
    · rw [List.getD_eq_getElem?_getD, List.getElem?_eq_none (Nat.le_of_not_lt hi)]
      exact mul_nonneg (by omega) h.nonneg
  exact ⟨fun i => (hcells i).trans ((grownAt_equalizedSizes m pass hgroups).le i),
    (total_equalizedSizes_le hgroups hbound).trans hextent⟩

theorem totalsFit : g.TotalsFit m axis := by
  refine ⟨fun pass => ?_, fun pass => ?_⟩
  · exact (h.passFits hcheck pass ((h.mul_le hcheck hextent).trans hmax)).1
  · obtain ⟨hnonneg, htotal⟩ := h.equalizedSizes_bounds hcheck hgroups hextent hmax pass
    have hlow := total_nonneg hnonneg
    exact ⟨by omega, htotal.trans hmax⟩

theorem sizingFits {container : Int} (hcontainer : container ≤ extent) :
    g.SizingFits m axis container := by
  have htotals := h.totalsFit hcheck hgroups hextent hmax
  have hpass := h.equalizedSizes_bounds hcheck hgroups hextent hmax (g.fittingPass m axis container)
  exact ⟨htotals.total _, htotals.pass _,
    sharesFit_of_nonneg hpass.1 (hcontainer.trans hmax) le_rfl⟩

/-- In a container that is not larger than the extent the tracks take no more than that. -/
theorem sharedSizes_bounds {container : Int} (hcontainer : container ≤ extent) :
    (∀ i, 0 ≤ (g.sharedSizes m axis container).getD i 0) ∧
      total (g.sharedSizes m axis container) ≤ extent := by
  have hfit := h.sizingFits hcheck hgroups hextent hmax hcontainer
  obtain ⟨hnonneg, htotal⟩ :=
    h.equalizedSizes_bounds hcheck hgroups hextent hmax (g.fittingPass m axis container)
  refine ⟨fun i => (hnonneg i).trans (hfit.grownAt.le i), ?_⟩
  rw [total_sharedSizes hgroups hfit]
  split
  · exact max_le htotal hcontainer
  · exact htotal

omit hcheck hgroups hextent hmax in
theorem slack_bounds {sizes : List Int} (hnonneg : ∀ i, 0 ≤ sizes.getD i 0) {e : Entry}
    (he : e ∈ g.components) : -bound ≤ g.slack m axis sizes e ∧
      g.slack m axis sizes e ≤ (e.placement.along axis).extent sizes := by
  obtain ⟨hclaim, hclaim'⟩ := h.claim .preferred e he
  have hcells := (e.placement.along axis).extent_nonneg hnonneg
  unfold slack
  omega

omit hgroups in
theorem placesFit {sizes : List Int} (hlen : sizes.length = g.count axis)
    (hnonneg : ∀ i, 0 ≤ sizes.getD i 0) (htotal : total sizes ≤ extent) {start : Int}
    (hlow : -2147483648 ≤ start - bound) (hhigh : start + extent ≤ 2147483647) :
    g.PlacesFit m axis start sizes := by
  have hbound := h.nonneg
  have hstop (e : Entry) (he : e ∈ g.components) :
      (e.placement.along axis).stop ≤ sizes.length :=
    hlen ▸ (fits_of_check hcheck he).stop_le axis
  have hbefore (n : Nat) : 0 ≤ ∑ j ∈ range n, sizes.getD j 0 := sum_nonneg fun j _ => hnonneg j
  have hcells (e : Entry) (he : e ∈ g.components) :
      0 ≤ (e.placement.along axis).extent sizes ∧
        (e.placement.along axis).extent sizes ≤ extent :=
    ⟨Slot.extent_nonneg hnonneg, (Slot.extent_le_total hnonneg (hstop e he)).trans htotal⟩
  constructor
  · intro i hi
    have hsum := hbefore i
    have hsum' := sum_range_le_total hnonneg hi
    exact ⟨by omega, by omega⟩
  · intro e he
    obtain ⟨hcell, hcell'⟩ := hcells e he
    exact ⟨by omega, by omega⟩
  · intro e he _
    have hlength : bound ≤ extent := by
      refine le_trans (le_mul_of_one_le_left hbound ?_) (h.mul_le hcheck hextent)
      have hpos := List.length_pos_of_mem he
      omega
    obtain ⟨-, hcell⟩ := hcells e he
    obtain ⟨hleft, hleft'⟩ := h.slack_bounds hnonneg he
    exact ⟨by omega, by omega⟩
  · intro e he
    have hstart : (e.placement.along axis).start ≤ (e.placement.along axis).stop :=
      ((fits_of_check hcheck he).start_lt_stop axis).le
    have hsum := hbefore (e.placement.along axis).start
    -- nothing is placed beyond the end of its cells
    have hend := sum_range_le_total hnonneg (hstop e he)
    rw [← sum_range_add_sum_Ico _ hstart, ← Slot.extent_eq_sum] at hend
    obtain ⟨hcell, -⟩ := hcells e he
    obtain ⟨hleft, hleft'⟩ := h.slack_bounds hnonneg he
    obtain ⟨hoffset, hoffset'⟩ := Alignment.offset_bounds
      (g.governing (e.placement.along axis) axis).alignment (g.slack m axis sizes e)
    exact ⟨by omega, by omega⟩

/-- **Layouts with bounded lengths are found in 32 bits**, if these hold the start of the axis less
one length, and the start with an extent that is large enough for the container and for all that the
tracks may take. -/
theorem layoutFits {insets : Insets} {container : Size}
    (hcontainer : (insets.shrink container).along axis ≤ extent)
    (hlow : -2147483648 ≤ insets.leading axis - bound)
    (hhigh : insets.leading axis + extent ≤ 2147483647) :
    g.LayoutFits m axis insets container := by
  obtain ⟨hnonneg, htotal⟩ := h.sharedSizes_bounds hcheck hgroups hextent hmax hcontainer
  exact ⟨h.sizingFits hcheck hgroups hextent hmax hcontainer,
    h.placesFit hcheck hextent hmax (length_sharedSizes hgroups _) hnonneg htotal hlow
      hhigh⟩

end BoundedBy

end Grid

end GridLayout

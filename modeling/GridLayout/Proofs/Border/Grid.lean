import GridLayout.Proofs.Border.Placements
import GridLayout.Proofs.Grid.Growth
import GridLayout.Proofs.Grid.History
import GridLayout.Proofs.Sizing.Shares
import GridLayout.Proofs.Track.Generated

/-!
# The grid of a border layout

Along each axis there are seven tracks: a margin, a track for the edge, its gap, the centre, and the
same again in reverse. The margins and gaps are strips, and of the elastic tracks between them only
the centre has a weight. There are no groups.

* `BorderProperties.build_eq`: the grid from its tracks and its components.
* `BorderProperties.exists_build_iff`: when there is one.
* `BorderProperties.IsGrid`: what is known of a grid that was made.
-/

namespace GridLayout

/-! ## Lengths -/

namespace BorderSpacing

/-- The margin beyond an edge. -/
def margin (s : BorderSpacing) : BorderRegion → Length
  | .north => s.topMargin
  | .south => s.bottomMargin
  | .west => s.leftMargin
  | .east => s.rightMargin
  | .center => .zero

/-- The gap between an edge and the centre. -/
def gap (s : BorderSpacing) : BorderRegion → Length
  | .north => s.northGap
  | .south => s.southGap
  | .west => s.westGap
  | .east => s.eastGap
  | .center => .zero

end BorderSpacing

namespace BorderProperties

open BorderRegion

/-- No margin has less than zero pixels, and no gap beside an edge that is occupied. -/
def SpacingNonneg (p : BorderProperties) (metrics : Metrics) : Prop :=
  ∀ axis, ∀ edge ∈ edges axis, 0 ≤ (p.spacing.margin edge).toPixels metrics axis ∧
    (p.occupied edge = true → 0 ≤ (p.spacing.gap edge).toPixels metrics axis)

theorem toPixels_gapBeside_nonneg {p : BorderProperties} {metrics : Metrics}
    (h : p.SpacingNonneg metrics) {axis : Axis} {edge : BorderRegion} (hedge : edge ∈ edges axis) :
    0 ≤ (p.gapBeside edge (p.spacing.gap edge)).toPixels metrics axis := by
  unfold gapBeside
  split
  · next hoccupied => exact (h axis edge hedge).2 hoccupied
  · rw [toPixels_zero]

/-! ## Tracks -/

theorem hundred_le_maxWeight : 100 ≤ maxWeight := by decide

/-- The weight of the centre. -/
def centerWeight : Weight := ⟨100, hundred_le_maxWeight⟩

/-- The tracks of an axis, whose margins and gaps are not below zero. -/
theorem trackList_eq_ok_iff {margin gap gap' margin' : Length} {tracks : List Track} :
    trackList margin gap gap' margin' = .ok tracks ↔ ∃ hmargin hgap hgap' hmargin', tracks =
      [.strip margin hmargin .zero, .elastic .zero, .strip gap hgap .zero, .elastic centerWeight,
        .strip gap' hgap' .zero, .elastic .zero, .strip margin' hmargin' .zero] := by
  have hedge : elasticTrack 0 = .ok (.elastic .zero) := elasticTrack_eq .zero
  have hcenter : elasticTrack 100 = .ok (.elastic centerWeight) := elasticTrack_eq centerWeight
  unfold trackList
  rw [hedge, hcenter]
  simp only [bind_eq_ok_iff, fixedTrack_eq_ok_iff]
  constructor
  · rintro ⟨_, ⟨hmargin, rfl⟩, _, hedge, _, ⟨hgap, rfl⟩, _, hcenter, _, ⟨hgap', rfl⟩, _, hedge', _,
      ⟨hmargin', rfl⟩, htracks⟩
    obtain rfl := Except.ok.inj hedge
    obtain rfl := Except.ok.inj hcenter
    obtain rfl := Except.ok.inj hedge'
    exact ⟨hmargin, hgap, hgap', hmargin', (Except.ok.inj htracks).symm⟩
  · rintro ⟨hmargin, hgap, hgap', hmargin', rfl⟩
    exact ⟨_, ⟨hmargin, rfl⟩, _, rfl, _, ⟨hgap, rfl⟩, _, rfl, _, ⟨hgap', rfl⟩, _, rfl, _,
      ⟨hmargin', rfl⟩, rfl⟩

theorem tracks_eq_trackList (p : BorderProperties) (axis : Axis) :
    p.tracks axis = trackList (p.spacing.margin (leading axis))
      (p.gapBeside (leading axis) (p.spacing.gap (leading axis)))
      (p.gapBeside (trailing axis) (p.spacing.gap (trailing axis)))
      (p.spacing.margin (trailing axis)) := by
  cases axis <;> rfl

/-- The grid of a border layout from its tracks and its components. -/
theorem build_eq (p : BorderProperties) :
    p.build = p.tracks .horizontal >>= fun columns => p.tracks .vertical >>= fun rows =>
      Grid.ofTracks columns rows >>= fun grid => .ok { grid with
        components := p.entries.foldl (fun l e => Grid.register e l) grid.components
        canShrink := p.canShrink } := by
  unfold build
  simp only [Grid.foldl_add]
  rfl

/-- Whether the layout may shrink shows nowhere else in its grid. -/
theorem build_setCanShrink {p : BorderProperties} {g : Grid}
    (h : p.build = .ok g) (canShrink : Bool) :
    { p with canShrink }.build = .ok { g with canShrink } := by
  rw [build_eq] at h ⊢
  obtain ⟨columns, hcolumns, h⟩ := bind_eq_ok_iff.1 h
  obtain ⟨rows, hrows, h⟩ := bind_eq_ok_iff.1 h
  obtain ⟨grid, hgrid, h⟩ := bind_eq_ok_iff.1 h
  obtain rfl := Except.ok.inj h
  exact bind_eq_ok_iff.2 ⟨columns, hcolumns, bind_eq_ok_iff.2 ⟨rows, hrows, bind_eq_ok_iff.2
    ⟨grid, hgrid, rfl⟩⟩⟩

/-- No margin is below zero, and no gap beside an edge that is occupied. -/
def LengthsNonneg (p : BorderProperties) : Prop :=
  ∀ axis, ∀ edge ∈ edges axis, (p.spacing.margin edge).value.isNegative = false ∧
    (p.occupied edge = true → (p.spacing.gap edge).value.isNegative = false)

theorem isNegative_gapBeside_iff {p : BorderProperties} {edge : BorderRegion} {gap : Length} :
    (p.gapBeside edge gap).value.isNegative = false ↔
      (p.occupied edge = true → gap.value.isNegative = false) := by
  unfold gapBeside
  split
  · next hoccupied => simp [hoccupied]
  · next hfree => simp [hfree, Length.isNegative_zero]

/-- There is a grid exactly if no length that it uses is below zero. -/
theorem exists_build_iff {p : BorderProperties} : (∃ g, p.build = .ok g) ↔ p.LengthsNonneg := by
  have htracks (axis : Axis) : (∃ tracks, p.tracks axis = .ok tracks) ↔
      ∀ edge ∈ edges axis, (p.spacing.margin edge).value.isNegative = false ∧
        (p.occupied edge = true → (p.spacing.gap edge).value.isNegative = false) := by
    simp only [tracks_eq_trackList, trackList_eq_ok_iff, edges, List.forall_mem_cons,
      ← isNegative_gapBeside_iff]
    constructor
    · rintro ⟨_, hmargin, hgap, hgap', hmargin', -⟩
      exact ⟨⟨hmargin, hgap⟩, ⟨hmargin', hgap'⟩, by simp⟩
    · rintro ⟨⟨hmargin, hgap⟩, ⟨hmargin', hgap'⟩, -⟩
      exact ⟨_, hmargin, hgap, hgap', hmargin', rfl⟩
  have hboth : p.LengthsNonneg ↔
      (∃ columns, p.tracks .horizontal = .ok columns) ∧ ∃ rows, p.tracks .vertical = .ok rows := by
    rw [htracks, htracks]
    refine ⟨fun h => ⟨h .horizontal, h .vertical⟩, fun h axis => ?_⟩
    cases axis
    · exact h.1
    · exact h.2
  rw [hboth, build_eq]
  constructor
  · rintro ⟨g, h⟩
    obtain ⟨columns, hcolumns, h⟩ := bind_eq_ok_iff.1 h
    obtain ⟨rows, hrows, -⟩ := bind_eq_ok_iff.1 h
    exact ⟨⟨columns, hcolumns⟩, rows, hrows⟩
  · rintro ⟨⟨columns, hcolumns⟩, rows, hrows⟩
    have hcolumns' := hcolumns
    have hrows' := hrows
    rw [tracks_eq_trackList, trackList_eq_ok_iff] at hcolumns' hrows'
    obtain ⟨_, _, _, _, rfl⟩ := hcolumns'
    obtain ⟨_, _, _, _, rfl⟩ := hrows'
    exact ⟨_, bind_eq_ok_iff.2 ⟨_, hcolumns, bind_eq_ok_iff.2 ⟨_, hrows, rfl⟩⟩⟩

/-! ## A grid that was made -/

/-- No component is registered twice, and no region is taken twice. -/
structure NodupRegions (p : BorderProperties) : Prop where
  ids : (p.regions.map Prod.fst).Nodup
  regions : (p.regions.map Prod.snd).Nodup

/-- The grid was made from the properties of a border layout. -/
structure IsGrid (p : BorderProperties) (g : Grid) : Prop where
  tracks : ∀ axis, p.tracks axis = .ok (g.tracks axis)
  groups : ∀ axis, g.groups axis = []
  components : g.components = p.entries
  canShrink : g.canShrink = p.canShrink

theorem isGrid_of_build {p : BorderProperties} (hnodup : p.NodupRegions) {g : Grid}
    (h : p.build = .ok g) : p.IsGrid g := by
  rw [build_eq] at h
  obtain ⟨columns, hcolumns, h⟩ := bind_eq_ok_iff.1 h
  obtain ⟨rows, hrows, h⟩ := bind_eq_ok_iff.1 h
  obtain ⟨grid, hgrid, h⟩ := bind_eq_ok_iff.1 h
  obtain rfl := Except.ok.inj h
  obtain rfl := Grid.eq_of_ofTracks hgrid
  have hids : (p.entries.map Entry.id).Nodup :=
    (map_id_entries hnodup.regions).nodup_iff.2 hnodup.ids
  constructor
  · intro axis
    cases axis
    · exact hcolumns
    · exact hrows
  · intro axis
    cases axis <;> rfl
  · exact Grid.foldl_register (by simpa using hids)
  · rfl

namespace IsGrid

variable {p : BorderProperties} {g : Grid} {axis : Axis}

theorem tracks_eq (h : p.IsGrid g) (axis : Axis) : ∃ hmargin hgap hgap' hmargin', g.tracks axis =
    [.strip (p.spacing.margin (leading axis)) hmargin .zero, .elastic .zero,
      .strip (p.gapBeside (leading axis) (p.spacing.gap (leading axis))) hgap .zero,
      .elastic centerWeight,
      .strip (p.gapBeside (trailing axis) (p.spacing.gap (trailing axis))) hgap' .zero,
      .elastic .zero, .strip (p.spacing.margin (trailing axis)) hmargin' .zero] := by
  have htracks := h.tracks axis
  rwa [tracks_eq_trackList, trackList_eq_ok_iff] at htracks

theorem count_eq (h : p.IsGrid g) (axis : Axis) : g.count axis = 7 := by
  obtain ⟨_, _, _, _, htracks⟩ := h.tracks_eq axis
  rw [Grid.count, htracks]
  rfl

/-- Every track lets its components fill it. -/
theorem alignment_eq (h : p.IsGrid g) {track : Track} (htrack : track ∈ g.tracks axis) :
    track.alignment = .fill := by
  obtain ⟨_, _, _, _, htracks⟩ := h.tracks_eq axis
  rw [htracks] at htrack
  simp only [List.mem_cons, List.not_mem_nil, or_false] at htrack
  rcases htrack with rfl | rfl | rfl | rfl | rfl | rfl | rfl <;> rfl

/-- Only the centre has a weight. -/
theorem isWeighted_iff (h : p.IsGrid g) {i : Nat} :
    IsWeighted (g.tracks axis) i ↔ i = centerIndex := by
  obtain ⟨_, _, _, _, htracks⟩ := h.tracks_eq axis
  rw [htracks, centerIndex]
  rcases i with _ | _ | _ | _ | _ | _ | _ | i <;>
    simp [IsWeighted, Track.strip, Track.elastic, Weight.zero, centerWeight]

/-- No track has a least size below zero, if no margin and no gap has. -/
theorem minimum_nonneg (h : p.IsGrid g) {metrics : Metrics} (hspacing : p.SpacingNonneg metrics)
    {track : Track} (htrack : track ∈ g.tracks axis) :
    0 ≤ track.minimum.toPixels metrics axis := by
  have hleading := leading_mem_edges axis
  have htrailing := trailing_mem_edges axis
  obtain ⟨_, _, _, _, htracks⟩ := h.tracks_eq axis
  rw [htracks] at htrack
  simp only [List.mem_cons, List.not_mem_nil, or_false] at htrack
  rcases htrack with rfl | rfl | rfl | rfl | rfl | rfl | rfl
  · exact (hspacing axis _ hleading).1
  · exact (toPixels_zero metrics axis).ge
  · exact toPixels_gapBeside_nonneg hspacing hleading
  · exact (toPixels_zero metrics axis).ge
  · exact toPixels_gapBeside_nonneg hspacing htrailing
  · exact (toPixels_zero metrics axis).ge
  · exact (hspacing axis _ htrailing).1

/-- Every component lies between the margins. -/
theorem along_placement (h : p.IsGrid g) (hnodup : p.NodupRegions) {e : Entry}
    (he : e ∈ g.components) (axis : Axis) :
    let slot := e.placement.along axis
    1 ≤ slot.start ∧ slot.start < slot.stop ∧ slot.stop ≤ 6 ∧ slot.override = none ∧
      ∀ i ∈ slot.target, i = centerIndex := by
  rw [h.components, entries_eq hnodup.regions] at he
  obtain ⟨taken, region, -, -, hplacement⟩ := exists_of_mem_entriesAfter he
  rw [hplacement]
  exact along_placementIn_spec taken region axis

/-- A grid that was made has no fault. -/
theorem check_eq_ok (h : p.IsGrid g) (hnodup : p.NodupRegions) : g.check = .ok () := by
  rw [Grid.check_eq_ok_iff]
  constructor
  · intro e he
    constructor
    · intro axis
      have hspan := (h.along_placement hnodup he axis).2.1
      exact Nat.pos_of_lt_add_right hspan
    · intro axis
      have hstop := (h.along_placement hnodup he axis).2.2.1
      exact hstop.trans (h.count_eq axis ▸ by decide)
    · intro axis target htarget
      obtain rfl := (h.along_placement hnodup he axis).2.2.2.2 target htarget
      exact h.count_eq axis ▸ by decide
  · rw [h.components]
    refine (pairwise_apart_entries hnodup.regions).imp_of_mem fun {e e'} he he' hapart hcorner => ?_
    -- placements with a common start would share its cell
    have hstart (axis : Axis) :
        (e.placement.along axis).start = (e'.placement.along axis).start := by
      cases axis
      · exact congrArg Prod.fst hcorner
      · exact congrArg Prod.snd hcorner
    obtain ⟨axis, haxis⟩ := hapart
    have hspan := (h.along_placement hnodup (h.components ▸ he) axis).2.1
    have hspan' := (h.along_placement hnodup (h.components ▸ he') axis).2.1
    have hsame := hstart axis
    omega

theorem groupsInside (h : p.IsGrid g) (axis : Axis) : g.GroupsInside axis := by
  simp [Grid.GroupsInside, GroupsFit, h.groups axis]

/-- Every component fills its cells. -/
theorem alignment_governing (h : p.IsGrid g) (hnodup : p.NodupRegions) {e : Entry}
    (he : e ∈ g.components) (axis : Axis) :
    (g.governing (e.placement.along axis) axis).alignment = .fill := by
  obtain ⟨-, hspan, hstop, hoverride, htarget⟩ := h.along_placement hnodup he axis
  have hindex : (e.placement.along axis).target.getD (e.placement.along axis).start <
      (g.tracks axis).length := by
    rw [show (g.tracks axis).length = 7 from h.count_eq axis]
    rcases hslot : (e.placement.along axis).target with _ | i
    · exact hspan.trans_le (hstop.trans (by decide))
    · rw [htarget i hslot]
      exact show centerIndex < 7 by decide
  unfold Grid.governing
  rw [hoverride]
  simp only [Option.none_or, List.getElem?_eq_getElem hindex, Option.some_or, Option.getD_some]
  exact h.alignment_eq (List.getElem_mem hindex)

end IsGrid

end BorderProperties

end GridLayout

import GridLayout.Proofs.Border.Tiling
import GridLayout.Proofs.ButtonBar.Row
import GridLayout.Proofs.Grid.Accounting
import GridLayout.Proofs.Layout.Builders
import GridLayout.Proofs.Layout.Lengths

/-!
# Generated grids are sound

A border layout or a button bar that started without components registers each of them once,
whatever was edited, asked and laid out since. Its grid is refused only for a length below zero that
it uses. A grid that was made has no fault, has its groups inside its tracks and holds exactly the
registered components, so there is an answer to every query and a layout in every container.

* `Query.exists_scan`: a grid without faults answers every query.
* `BorderLayout.GuardsRegions`: what registering in a region of a border layout does.
* `Layout.IsSound`: all that is said above.
* `Layout.isSound_of_reaches`: it holds after any history.
-/

namespace GridLayout

/-- A grid that has no fault and no groups that reach outside has an answer to every query. -/
theorem Query.exists_scan {g : Grid} (hcheck : g.check = .ok ())
    (hgroups : ∀ axis, g.GroupsInside axis) (q : Query) : ∃ a, q.scan g = .ok a := by
  cases q with
  | validate => exact ⟨(), hcheck⟩
  | totalWeight axis => exact ⟨_, rfl⟩
  | cellSizes m pass axis => exact ⟨_, bind_eq_ok_iff.2 ⟨(), hcheck, rfl⟩⟩
  | groupedSizes m pass axis =>
    exact ⟨_, (g.scanGroupedSizes_eq_ok_iff m pass axis).2 ⟨hcheck, hgroups axis, rfl⟩⟩
  | sizesIn m axis container =>
    exact ⟨_, g.scanSizesIn_eq_ok m hcheck (hgroups axis) container⟩
  | addWeights axis container sizes => exact ⟨_, rfl⟩
  | preferredSize m => exact ⟨_, Grid.scanTotalSize_eq_ok m hcheck hgroups _⟩
  | minimumSize m => exact ⟨_, Grid.scanTotalSize_eq_ok m hcheck hgroups _⟩
  | arrange m insets container => exact ⟨_, Grid.scanArrange_eq_ok hcheck hgroups insets container⟩

/-! ## Registering in a region -/

/-- No two components are in one region. Registering is refused in a region that another component
occupies, and changes nothing then; otherwise the component leaves its former region. -/
structure BorderLayout.GuardsRegions (b : BorderLayout) : Prop where
  nodup : (b.properties.regions.map Prod.snd).Nodup
  add_eq_error_iff : ∀ id region fault, b.add id region = .error fault ↔
    ∃ other, (other, region) ∈ b.properties.regions ∧ other ≠ id ∧
      fault = .argument (.occupiedRegion region other)
  after_add : ∀ id region fault, b.add id region = .error fault → b.after (.add id region) = b
  after_addNamed : ∀ id name fault, b.addNamed id name = .error fault →
    b.after (.addNamed id name) = b
  regions_of_add : ∀ id region b', b.add id region = .ok b' → b'.properties.regions =
    b.properties.regions.filter (fun entry => entry.1 != id) ++ [(id, region)]

namespace BorderProperties

variable {p : BorderProperties}

/-- The component that is reported is the one in the region. -/
theorem add_eq_error_iff (h : p.NodupRegions) {id : ComponentId} {region : BorderRegion}
    {fault : LayoutError} :
    p.add id region = .error fault ↔ ∃ other, (other, region) ∈ p.regions ∧ other ≠ id ∧
      fault = .argument (.occupiedRegion region other) := by
  unfold add
  split
  · next entry hfind =>
    have hentry := List.mem_of_find?_eq_some hfind
    obtain ⟨hregion, hid⟩ : entry.2 = region ∧ entry.1 ≠ id := by
      simpa using List.find?_some hfind
    rw [Except.error.injEq]
    constructor
    · rintro rfl
      exact ⟨entry.1, hregion ▸ hentry, hid, rfl⟩
    · rintro ⟨other, hother, -, rfl⟩
      have hsame : entry = (other, region) :=
        List.inj_on_of_nodup_map h.regions hentry hother hregion
      rw [hsame]
  · next hfree =>
    refine iff_of_false (by simp) ?_
    rintro ⟨other, hother, hne, -⟩
    simpa [hne] using List.find?_eq_none.1 hfree _ hother

theorem regions_of_add {p' : BorderProperties} {id : ComponentId} {region : BorderRegion}
    (h : p.add id region = .ok p') :
    p'.regions = p.regions.filter (fun entry => entry.1 != id) ++ [(id, region)] := by
  unfold add at h
  split at h
  · cases h
  · obtain rfl := Except.ok.inj h
    rfl

end BorderProperties

/-- A layout is the result of registering, or the layout that refuses to. -/
theorem BorderLayout.add_eq_ok_iff {b b' : BorderLayout} {id : ComponentId}
    {region : BorderRegion} :
    b.add id region = .ok b' ↔ ∃ p, b.properties.add id region = .ok p ∧ b' = ofProperties p := by
  unfold add
  cases b.properties.add id region <;> simp [Except.map, eq_comm]

theorem BorderLayout.guardsRegions {b : BorderLayout} (h : b.properties.NodupRegions) :
    b.GuardsRegions := by
  constructor
  · exact h.regions
  · intro id region fault
    rw [← BorderProperties.add_eq_error_iff h]
    unfold add
    cases b.properties.add id region <;> simp [Except.map]
  · intro id region fault hrefused
    simp only [after, hrefused]
    rfl
  · intro id name fault hrefused
    simp only [after, hrefused]
    rfl
  · intro id region b' hadded
    obtain ⟨p, hp, rfl⟩ := BorderLayout.add_eq_ok_iff.1 hadded
    exact BorderProperties.regions_of_add hp

/-! ## Soundness -/

namespace Layout

/-- The components of a layout, in the order of their registration. -/
def ids : Layout → List ComponentId
  | .free g => g.grid.components.map Entry.id
  | .border b => b.properties.regions.map Prod.fst
  | .buttons b => b.properties.buttons

/-- The lengths that the grid of the layout uses. -/
def usedLengths : Layout → List Length
  | .free _ => []
  | .border b => b.properties.usedLengths
  | .buttons b => b.properties.usedLengths

/-- The placements that are created for the grid of the layout. -/
def placements : Layout → Except LayoutError (List Entry)
  | .free g => .ok g.grid.components
  | .border b => b.properties.placements
  | .buttons b => b.properties.placements

/-- Every component is registered once. No placement is refused, and no grid but for a length below
zero that it uses, of which the first is reported. A grid that is made is valid and has its groups
inside its tracks; it holds the registered components at their placements, and answers every query
and layout. -/
structure IsSound (l : Layout) : Prop where
  nodup_ids : l.ids.Nodup
  exists_placements : ∃ entries, l.placements = .ok entries ∧ (entries.map Entry.id).Perm l.ids
  refused_iff : (∃ fault, l.ensureGrid = .error fault) ↔
    ∃ length ∈ l.usedLengths, length.value.isNegative = true
  refused_for : ∀ fault, l.ensureGrid = .error fault → ∃ length,
    firstNegative? l.usedLengths = some length ∧ fault = .argument (.negativeMinimum length)
  valid : ∀ g, l.ensureGrid = .ok g → (g.answer .validate).1 = .ok ()
  groupsInside : ∀ g, l.ensureGrid = .ok g → ∀ axis, g.grid.GroupsInside axis
  components_eq : ∀ g, l.ensureGrid = .ok g → l.placements = .ok g.grid.components
  exists_answer : ∀ g, l.ensureGrid = .ok g → ∀ q, ∃ a, (l.answer q).1 = .ok a
  exists_perform : ∀ g, l.ensureGrid = .ok g → ∀ p insets container, ∃ a,
    (l.perform p insets container).1 = .ok a

variable {l : Layout}

/-- A fresh layout fails to make a grid exactly as its properties do. -/
theorem Fresh.refusesNegative (h : l.Fresh) {lengths : List Length}
    (hbuild : RefusesNegative l.build lengths) : RefusesNegative l.ensureGrid lengths := by
  intro fault
  rw [← hbuild fault]
  constructor
  · exact build_of_ensureGrid_eq_error
  · intro hfault
    rcases hg : l.ensureGrid with fault' | g
    · rw [build_of_ensureGrid_eq_error hg] at hfault
      rw [Except.error.inj hfault]
    · rw [(h.ensureGrid_eq_ok hg).1] at hfault
      cases hfault

/-- A fresh layout is sound if the grids of its properties are. -/
theorem Fresh.isSound (h : l.Fresh) (hids : l.ids.Nodup)
    (hplaced : ∃ entries, l.placements = .ok entries ∧ (entries.map Entry.id).Perm l.ids)
    (hrefuses : RefusesNegative l.build l.usedLengths)
    (hgrid : ∀ g, l.build = .ok g → g.check = .ok () ∧ (∀ axis, g.GroupsInside axis) ∧
      l.placements = .ok g.components) : l.IsSound := by
  have hensure := h.refusesNegative hrefuses
  have hmade {g : CachedGrid} (hg : l.ensureGrid = .ok g) :=
    hgrid g.grid (h.ensureGrid_eq_ok hg).1
  have hanswer (g : CachedGrid) (hg : l.ensureGrid = .ok g) (q : Query) :
      ∃ a, (l.answer q).1 = .ok a := by
    obtain ⟨hcheck, hgroups, -⟩ := hmade hg
    obtain ⟨a, ha⟩ := q.exists_scan hcheck hgroups
    exact ⟨a, (h.answer q).1.trans (bind_eq_ok_iff.2 ⟨g.grid, (h.ensureGrid_eq_ok hg).1, ha⟩)⟩
  constructor
  · exact hids
  · exact hplaced
  · exact hensure.exists_error_iff
  · exact fun fault => (hensure fault).1
  · intro g hg
    have hagrees := (h.ensureGrid_eq_ok hg).2
    exact (g.grid.computes_validate g.cache hagrees).1.trans (hmade hg).1
  · exact fun g hg => (hmade hg).2.1
  · exact fun g hg => (hmade hg).2.2
  · exact hanswer
  · intro g hg p insets container
    rw [perform_eq_answer]
    exact hanswer g hg (.arrange p.measures insets container)

/-- Border layouts whose regions and components are all different are sound. -/
theorem isSound_border {b : BorderLayout} (h : (Layout.border b).Fresh)
    (hnodup : b.properties.NodupRegions) : (Layout.border b).IsSound := by
  have hperm := BorderProperties.map_id_entries hnodup.regions
  refine h.isSound hnodup.ids ⟨_, b.properties.placements_eq, hperm⟩
    b.properties.refusesNegative_build fun g hbuild => ?_
  have hgrid := BorderProperties.isGrid_of_build hnodup hbuild
  refine ⟨hgrid.check_eq_ok hnodup, hgrid.groupsInside, ?_⟩
  rw [hgrid.components]
  exact b.properties.placements_eq

/-- Button bars whose buttons are all different are sound. -/
theorem isSound_buttons {b : ButtonBar} (h : (Layout.buttons b).Fresh)
    (hnodup : b.properties.buttons.Nodup) : (Layout.buttons b).IsSound := by
  refine h.isSound hnodup ⟨_, b.properties.placements_eq, ?_⟩
    b.properties.refusesNegative_build fun g hbuild => ?_
  · exact .of_eq b.properties.map_id_entries
  · have hgrid := ButtonBarProperties.isGrid_of_build hnodup hbuild
    refine ⟨hgrid.check_eq_ok, hgrid.groupsInside, ?_⟩
    rw [hgrid.components]
    exact b.properties.placements_eq

/-- **Generated grids are sound**, whatever was done to the layout: every component is registered
once and at most one in a region, a refused registration changes nothing, the grid is refused
exactly for a length below zero that it uses, and a grid that is made never fails. -/
theorem isSound_of_reaches {start : Layout} (hstart : start = .border .new ∨ start = .buttons .new)
    (h : start.Reaches l) : l.IsSound ∧ ∀ b, l = .border b → b.GuardsRegions := by
  rcases hstart with rfl | rfl
  · have hfresh := h.fresh IsInitial.newBorder.fresh
    obtain ⟨b, rfl, -⟩ := h.border (P := fun _ => True) trivial fun _ _ => id
    have hnodup := h.nodupRegions
    refine ⟨isSound_border hfresh hnodup, fun b' hb => ?_⟩
    obtain rfl := Layout.border.inj hb
    exact BorderLayout.guardsRegions hnodup
  · have hfresh := h.fresh IsInitial.newButtons.fresh
    obtain ⟨b, rfl, -⟩ := h.buttons (P := fun _ => True) trivial fun _ _ => id
    refine ⟨isSound_buttons hfresh h.nodup_buttons, fun b' hb => ?_⟩
    cases hb

/-- A component is refused in the north, where the gap is below zero. After the other one moved to
the south the gap is not used any more, and there is a grid. -/
theorem isSound_moved :
    let gap : Length := .pixels (-3)
    let edits : List BorderEdit := [.setSpacing fun s => { s with northGap := gap },
      .add ⟨1⟩ .north, .add ⟨2⟩ .west, .add ⟨3⟩ .north]
    let b := edits.foldl BorderLayout.after .new
    let b' := b.after (.add ⟨1⟩ .south)
    (Layout.border .new).Reaches (.border b) ∧ (Layout.border .new).Reaches (.border b') ∧
      b.GuardsRegions ∧ b.properties.regions = [(⟨1⟩, .north), (⟨2⟩, .west)] ∧
      (Layout.border b').IsSound ∧ b'.properties.regions = [(⟨2⟩, .west), (⟨1⟩, .south)] ∧
      (∃ fault, (Layout.border b).ensureGrid = .error fault) ∧
      ¬∃ fault, (Layout.border b').ensureGrid = .error fault := by
  intro gap edits b b'
  have hb : (Layout.border .new).Reaches (.border b) :=
    Layout.Reaches.refl.foldl (edits.map Layout.Step.border)
  have hb' : (Layout.border .new).Reaches (.border b') := hb.after (.border (.add ⟨1⟩ .south))
  obtain ⟨hsound, hguards⟩ := isSound_of_reaches (.inl rfl) hb
  obtain ⟨hsound', -⟩ := isSound_of_reaches (.inl rfl) hb'
  refine ⟨hb, hb', hguards b rfl, by decide +kernel, hsound', by decide +kernel, ?_, ?_⟩
  · exact hsound.refused_iff.2 (by decide +kernel)
  · exact mt hsound'.refused_iff.1 (by decide +kernel)

end Layout

end GridLayout

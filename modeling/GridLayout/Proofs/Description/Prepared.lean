import GridLayout.Description.Basic
import GridLayout.Proofs.Border.Tiling
import GridLayout.Proofs.ButtonBar.Grid
import GridLayout.Proofs.Grid.Safety

/-!
# What a description makes

The components of a description are numbered in order, and everything that is made of them keeps
these numbers: the platform knows the sizes of each, and the layout has each in its place.

* `Description.measures_platform`: a component measures what is said of it.
* `Description.freeGrid_spec`, `Description.borderLayout_spec` and
  `Description.buttons_buttonBar`: the properties of the layout.
* `Description.fresh_makeLayout`: the layout has kept nothing that could be stale.
-/

namespace GridLayout

/-- The region of a component, the centre if none is given. -/
def ComponentDescription.region? (c : ComponentDescription) : Option BorderRegion :=
  (BorderRegion.ofText (c.region.getD BorderRegion.center.name)).toOption

namespace Description

variable {d : Description}

/-! ## Numbers -/

theorem getElem?_numbered (i : Nat) :
    d.numbered[i]? = (d.components[i]?).map fun c => (⟨i⟩, c) := by
  simp [numbered, List.getElem?_zipIdx]
  cases d.components[i]? <;> rfl

theorem length_numbered : d.numbered.length = d.components.length := by
  simp [numbered]

/-- A component has its place as its number. -/
theorem mem_numbered {id : ComponentId} {c : ComponentDescription} :
    (id, c) ∈ d.numbered ↔ d.components[id.value]? = some c := by
  rw [List.mem_iff_getElem?]
  simp only [getElem?_numbered, Option.map_eq_some_iff]
  constructor
  · rintro ⟨i, c', hc, heq⟩
    obtain ⟨rfl, rfl⟩ := Prod.mk.inj heq
    exact hc
  · intro hc
    exact ⟨id.value, c, hc, rfl⟩

theorem nodup_map_fst_numbered : (d.numbered.map Prod.fst).Nodup := by
  have hids : d.numbered.map Prod.fst = (d.components.zipIdx.map Prod.snd).map ComponentId.mk := by
    rw [numbered, List.map_map, List.map_map]
    rfl
  rw [hids, List.zipIdx_map_snd]
  exact List.Nodup.map (fun _ _ h => congrArg ComponentId.value h) List.nodup_range'

/-! ## The platform -/

theorem sizes?_foldl_insert_of_notMem (entries : List (ComponentId × ComponentDescription))
    (p : Platform) {id : ComponentId} (h : id ∉ entries.map Prod.fst) :
    (entries.foldl (fun p (id, c) => p.insert id c.sizes) p).sizes? id = p.sizes? id := by
  induction entries generalizing p with
  | nil => rfl
  | cons entry entries ih =>
    rw [List.map_cons, List.mem_cons, not_or] at h
    rw [List.foldl_cons, ih _ h.2]
    exact (Platform.get?_put entry.1 id entry.2.sizes p.sizes).trans (if_neg h.1)

theorem sizes?_foldl_insert {entries : List (ComponentId × ComponentDescription)}
    (hids : (entries.map Prod.fst).Nodup) (p : Platform) {id : ComponentId}
    {c : ComponentDescription} (h : (id, c) ∈ entries) :
    (entries.foldl (fun p (id, c) => p.insert id c.sizes) p).sizes? id = some c.sizes := by
  induction entries generalizing p with
  | nil => cases h
  | cons entry entries ih =>
    obtain ⟨hnew, hids⟩ := List.nodup_cons.1 (List.map_cons ▸ hids)
    rcases List.mem_cons.1 h with rfl | h
    · rw [List.foldl_cons, sizes?_foldl_insert_of_notMem _ _ hnew]
      exact (Platform.get?_put id id c.sizes p.sizes).trans (if_pos rfl)
    · exact ih hids _ h

/-- A component measures what is said of it, and nothing else. -/
theorem measures_platform {id : ComponentId} {c : ComponentDescription} (h : (id, c) ∈ d.numbered)
    (axis : Axis) : d.platform.measures.preferred id axis = c.sizes.preferred.along axis ∧
      d.platform.measures.minimum id axis = c.sizes.minimum.along axis := by
  have hsizes : d.platform.sizes? id = some c.sizes :=
    sizes?_foldl_insert nodup_map_fst_numbered _ h
  simp [Platform.measures, Platform.extent, hsizes]

/-! ## Free layouts -/

/-- Groups that are added to a grid end up behind its own. -/
theorem addGroups_eq_ok {axis : Axis} {texts : List String} {g g' : Grid}
    (h : addGroups axis texts g = .ok g') : ∃ groups, texts.mapM TrackGroup.ofText = .ok groups ∧
      g' = { g with lanes := g.lanes.modify axis fun lane =>
        { lane with groups := lane.groups ++ groups } } := by
  unfold addGroups at h
  induction texts generalizing g with
  | nil =>
    obtain rfl := Except.ok.inj h
    refine ⟨[], rfl, ?_⟩
    cases axis <;> simp [PerAxis.modify]
  | cons text texts ih =>
    rw [List.foldlM_cons] at h
    obtain ⟨next, hnext, h⟩ := bind_eq_ok_iff.1 h
    obtain ⟨group, hgroup, hnext⟩ := bind_eq_ok_iff.1 hnext
    obtain rfl := Except.ok.inj hnext
    obtain ⟨groups, hgroups, rfl⟩ := ih h
    refine ⟨group :: groups, ?_, ?_⟩
    · rw [List.mapM_cons, hgroup, hgroups]
      rfl
    · cases axis <;> simp [Grid.addGroup, PerAxis.modify]

/-- An entry for a component, at the cell that is said. -/
def IsPlaced (entry : ComponentId × ComponentDescription) (e : Entry) : Prop :=
  e.id = entry.1 ∧ placement entry.2 = .ok e.placement

theorem map_id_of_isPlaced {entries : List (ComponentId × ComponentDescription)}
    {placed : List Entry} (h : List.Forall₂ IsPlaced entries placed) :
    placed.map Entry.id = entries.map Prod.fst := by
  induction h with
  | nil => rfl
  | cons hfirst _ ih => rw [List.map_cons, List.map_cons, hfirst.1, ih]

theorem exists_placed {entries : List (ComponentId × ComponentDescription)} {g g' : Grid}
    (h : entries.foldlM (fun g (id, c) => return g.add id (← placement c)) g =
      (.ok g' : Except DescriptionFault Grid)) :
    ∃ placed, List.Forall₂ IsPlaced entries placed ∧
      g' = placed.foldl (fun g e => g.add e.id e.placement) g := by
  induction entries generalizing g with
  | nil =>
    obtain rfl := Except.ok.inj h
    exact ⟨[], .nil, rfl⟩
  | cons entry entries ih =>
    rw [List.foldlM_cons] at h
    obtain ⟨next, hnext, h⟩ := bind_eq_ok_iff.1 h
    obtain ⟨p, hp, hnext⟩ := bind_eq_ok_iff.1 hnext
    obtain rfl := Except.ok.inj hnext
    obtain ⟨placed, hplaced, rfl⟩ := ih h
    exact ⟨⟨entry.1, p⟩ :: placed, .cons ⟨rfl, hp⟩ hplaced, rfl⟩

/-- The grid of a free layout is made of the tracks, the groups and the cells that are written. -/
structure IsFreeGrid (d : Description) (columns rows : String)
    (columnGroups rowGroups : List String) (g : Grid) : Prop where
  columns : Track.readList columns.toList .fill = .ok (g.tracks .horizontal)
  rows : Track.readList rows.toList .center = .ok (g.tracks .vertical)
  columnGroups : columnGroups.mapM TrackGroup.ofText = .ok (g.groups .horizontal)
  rowGroups : rowGroups.mapM TrackGroup.ofText = .ok (g.groups .vertical)
  components : List.Forall₂ IsPlaced d.numbered g.components
  canShrink : g.canShrink = d.canShrink

theorem freeGrid_spec {columns rows : String} {columnGroups rowGroups : List String} {g : Grid}
    (h : d.freeGrid columns rows columnGroups rowGroups = .ok g) :
    d.IsFreeGrid columns rows columnGroups rowGroups g := by
  obtain ⟨lanes, hlanes, h⟩ := bind_eq_ok_iff.1 h
  obtain ⟨bare, hbare, hlanes⟩ := bind_eq_ok_iff.1 (mapError_eq_ok_iff.1 hlanes)
  obtain ⟨columnTracks, hcolumns, hbare⟩ := bind_eq_ok_iff.1 hbare
  obtain ⟨rowTracks, hrows, hbare⟩ := bind_eq_ok_iff.1 hbare
  obtain rfl := Grid.eq_of_ofTracks hbare
  obtain ⟨grouped, hgrouped, hlanes⟩ := bind_eq_ok_iff.1 hlanes
  obtain ⟨groupsX, hgroupsX, rfl⟩ := addGroups_eq_ok hgrouped
  obtain ⟨groupsY, hgroupsY, rfl⟩ := addGroups_eq_ok hlanes
  obtain ⟨placed, hplaced, rfl⟩ := exists_placed h
  have hids : (([] ++ placed).map Entry.id).Nodup := by
    rw [List.nil_append, map_id_of_isPlaced hplaced]
    exact nodup_map_fst_numbered
  rw [Grid.foldl_add, Grid.foldl_register hids]
  exact ⟨hcolumns, hrows, hgroupsX, hgroupsY, hplaced, rfl⟩

/-! ## Border layouts -/

/-- The entry of a component for its region. -/
def IsInRegion (entry : ComponentId × ComponentDescription) (a : ComponentId × BorderRegion) :
    Prop :=
  a.1 = entry.1 ∧ entry.2.region? = some a.2

/-- A component that is new to a border layout ends up behind the others. -/
theorem eq_of_add_of_notMem {p p' : BorderProperties} {id : ComponentId} {region : BorderRegion}
    (hid : id ∉ p.regions.map Prod.fst) (h : p.add id region = .ok p') :
    p' = { p with regions := p.regions ++ [(id, region)] } := by
  have hothers : p.regions.filter (fun entry => entry.1 != id) = p.regions := by
    refine List.filter_eq_self.2 fun entry hentry => ?_
    have hne : entry.1 ≠ id := fun heq => hid (heq ▸ List.mem_map_of_mem hentry)
    simpa using hne
  unfold BorderProperties.add at h
  split at h
  · cases h
  · rw [hothers] at h
    exact (Except.ok.inj h).symm

theorem exists_regions {entries : List (ComponentId × ComponentDescription)} {p : BorderProperties}
    {b : BorderLayout} (hids : (p.regions.map Prod.fst ++ entries.map Prod.fst).Nodup)
    (hnodup : p.NodupRegions)
    (h : entries.foldlM (fun b (id, c) => b.addNamed id (c.region.getD BorderRegion.center.name))
      (BorderLayout.ofProperties p) = .ok b) :
    ∃ added, List.Forall₂ IsInRegion entries added ∧
      b = .ofProperties { p with regions := p.regions ++ added } ∧ b.properties.NodupRegions := by
  induction entries generalizing p with
  | nil =>
    obtain rfl := Except.ok.inj h
    exact ⟨[], .nil, by simp, hnodup⟩
  | cons entry entries ih =>
    rw [List.foldlM_cons] at h
    obtain ⟨next, hnext, h⟩ := bind_eq_ok_iff.1 h
    obtain ⟨region, hregion, hadd⟩ := bind_eq_ok_iff.1 hnext
    rcases hp' : p.add entry.1 region with fault | p'
    · simp [BorderLayout.add, BorderLayout.ofProperties, hp', Except.map] at hadd
    · obtain rfl : BorderLayout.ofProperties p' = next := by
        simpa [BorderLayout.add, BorderLayout.ofProperties, hp', Except.map] using hadd
      have hnodup' := hnodup.add hp'
      have hnew : entry.1 ∉ p.regions.map Prod.fst := fun hmem =>
        (List.nodup_append.1 hids).2.2 _ hmem _ (by simp) rfl
      obtain rfl := eq_of_add_of_notMem hnew hp'
      obtain ⟨added, hadded, rfl, hregions⟩ := ih (by simpa using hids) hnodup' h
      refine ⟨(entry.1, region) :: added, .cons ⟨rfl, ?_⟩ hadded, by simp, hregions⟩
      rw [ComponentDescription.region?, hregion]
      rfl

/-- Every component of a border layout is in the region that is said, and in that alone. -/
theorem borderLayout_spec {margin gap : Length} {b : BorderLayout}
    (h : d.borderLayout margin gap = .ok b) :
    ∃ regions, List.Forall₂ IsInRegion d.numbered regions ∧
      b = .ofProperties ⟨.uniform margin gap, d.canShrink, regions⟩ ∧
      b.properties.NodupRegions :=
  exists_regions (p := ⟨.uniform margin gap, d.canShrink, []⟩) nodup_map_fst_numbered
    ⟨List.nodup_nil, List.nodup_nil⟩ h

/-! ## Button bars -/

theorem foldl_add_buttons {entries : List (ComponentId × ComponentDescription)}
    {p : ButtonBarProperties} (hids : (p.buttons ++ entries.map Prod.fst).Nodup) :
    entries.foldl (fun b (id, _) => b.add id) (ButtonBar.ofProperties p) =
      .ofProperties { p with buttons := p.buttons ++ entries.map Prod.fst } := by
  induction entries generalizing p with
  | nil => simp
  | cons entry entries ih =>
    obtain ⟨id, c⟩ := entry
    have hothers : p.buttons.filter (fun b => b != id) = p.buttons := by
      refine List.filter_eq_self.2 fun other hother => ?_
      have hne : other ≠ id := (List.nodup_append.1 hids).2.2 _ hother _ (by simp)
      simpa using hne
    have hadd : (ButtonBar.ofProperties p).add id =
        .ofProperties { p with buttons := p.buttons ++ [id] } := by
      simp [ButtonBar.add, ButtonBar.ofProperties, ButtonBarProperties.add, hothers]
    simp only [List.foldl_cons, hadd]
    rw [ih (by simpa using hids)]
    simp

/-- The buttons of a bar are the components in order. -/
theorem buttonBar_eq (margin gap : Length) (alignment : ButtonAlignment) :
    d.buttonBar margin gap alignment = .ofProperties
      ⟨ButtonBarProperties.uniformSpacing margin gap, alignment, d.canShrink,
        d.numbered.map Prod.fst⟩ :=
  foldl_add_buttons
    (p := ⟨ButtonBarProperties.uniformSpacing margin gap, alignment, d.canShrink, []⟩)
    nodup_map_fst_numbered

/-! ## The layout -/

/-- The layout that is made, by its kind. -/
theorem makeLayout_cases {l : Layout} (h : d.makeLayout = .ok l) :
    (∃ columns rows columnGroups rowGroups g,
      d.layout = .free columns rows columnGroups rowGroups ∧
      d.IsFreeGrid columns rows columnGroups rowGroups g ∧ l = .free (.ofGrid g)) ∨
    (∃ margin gap regions, d.layout = .border margin gap ∧
      List.Forall₂ IsInRegion d.numbered regions ∧
      BorderProperties.NodupRegions ⟨.uniform margin gap, d.canShrink, regions⟩ ∧
      l = .border (.ofProperties ⟨.uniform margin gap, d.canShrink, regions⟩)) ∨
    ∃ margin gap alignment, d.layout = .buttons margin gap alignment ∧
      l = .buttons (.ofProperties ⟨ButtonBarProperties.uniformSpacing margin gap, alignment,
        d.canShrink, d.numbered.map Prod.fst⟩) := by
  unfold makeLayout at h
  split at h
  · next columns rows columnGroups rowGroups hkind =>
    obtain ⟨g, hg, hl⟩ := bind_eq_ok_iff.1 h
    obtain rfl := Except.ok.inj hl
    exact .inl ⟨_, _, _, _, g, hkind, freeGrid_spec hg, rfl⟩
  · next margin gap hkind =>
    rcases hb : d.borderLayout margin gap with fault | b
    · simp [hb, Except.map, Except.mapError] at h
    · obtain rfl : Layout.border b = l := by
        simpa [hb, Except.map, Except.mapError] using h
      obtain ⟨regions, hregions, rfl, hnodup⟩ := borderLayout_spec hb
      exact .inr (.inl ⟨_, _, regions, hkind, hregions, hnodup, rfl⟩)
  · next margin gap alignment hkind =>
    obtain rfl := Except.ok.inj h
    exact .inr (.inr ⟨_, _, _, hkind, by rw [buttonBar_eq]⟩)

/-- It has kept nothing that could be stale. -/
theorem fresh_makeLayout {l : Layout} (h : d.makeLayout = .ok l) : l.Fresh := by
  rcases makeLayout_cases h with ⟨_, _, _, _, g, -, -, rfl⟩ | ⟨_, _, _, -, -, -, rfl⟩ |
    ⟨_, _, _, -, rfl⟩
  · intro g' hg'
    obtain rfl := Option.some.inj hg'
    exact ⟨rfl, Cache.agrees_empty g⟩
  · exact Layout.fresh_of_kept?_eq_none rfl
  · exact Layout.fresh_of_kept?_eq_none rfl

end Description

end GridLayout

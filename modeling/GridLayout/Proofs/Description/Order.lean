import GridLayout.Proofs.Description.Reports

/-!
# The components of a described grid

The grid of a description has one entry for each component, in the order of the description, except
that a border layout has the component in the centre last. The entry of a component has its number
and its own placement.

* `Description.inOrder`: the components in the order of the grid.
* `Description.PlacedAt`: the placement of the component at an index of that order.
* `Description.Makes.map_id_components` and `Description.Makes.getElem?_components`: the entries of
  the grid are those.
-/

namespace GridLayout

/-- The component is in the centre, be it by default. -/
def ComponentDescription.isCentral (c : ComponentDescription) : Bool := c.region? == some .center

namespace Description

variable {d : Description}

/-- The components in the order of the description; of a border layout that in the centre last. -/
def inOrder (d : Description) : List (ComponentId × ComponentDescription) :=
  match d.layout with
  | .border .. =>
    d.numbered.filter (fun entry => !entry.2.isCentral) ++
      d.numbered.filter fun entry => entry.2.isCentral
  | .free .. | .buttons .. => d.numbered

/-- The placement of a component at an index of the order: the cells that are said, the region
between those taken before, or the column of a button. -/
def PlacedAt (d : Description) (i : Nat) (c : ComponentDescription) (p : Placement) : Prop :=
  match d.layout with
  | .free .. => placement c = .ok p
  | .border .. => ∃ region, c.region? = some region ∧ p = BorderProperties.placementIn
    ((d.inOrder.take i).filterMap fun entry => entry.2.region?) region
  | .buttons .. => p = .single (ButtonBarProperties.buttonColumn i) 1

/-- No component is left out or told twice. -/
theorem perm_inOrder (d : Description) : d.inOrder.Perm d.numbered := by
  unfold inOrder
  split
  · exact List.perm_append_comm.trans (List.filter_append_perm _ _)
  · exact .refl _
  · exact .refl _

theorem mem_numbered_of_getElem?_inOrder {i : Nat} {entry : ComponentId × ComponentDescription}
    (h : d.inOrder[i]? = some entry) : entry ∈ d.numbered :=
  d.perm_inOrder.mem_iff.1 (List.mem_of_getElem? h)

/-! ## Border layouts -/

theorem isCentral_of_isInRegion {entry : ComponentId × ComponentDescription}
    {a : ComponentId × BorderRegion} (h : IsInRegion entry a) :
    entry.2.isCentral = (a.2 == .center) := by
  rw [ComponentDescription.isCentral, h.2]
  rfl

theorem filterMap_region_of_isInRegion {entries : List (ComponentId × ComponentDescription)}
    {regions : List (ComponentId × BorderRegion)} (h : List.Forall₂ IsInRegion entries regions) :
    (entries.filterMap fun entry => entry.2.region?) = regions.map Prod.snd := by
  induction h with
  | nil => rfl
  | cons hfirst _ ih => simp [hfirst.2, ih]

theorem map_fst_of_isInRegion {entries : List (ComponentId × ComponentDescription)}
    {regions : List (ComponentId × BorderRegion)} (h : List.Forall₂ IsInRegion entries regions) :
    regions.map Prod.fst = entries.map Prod.fst := by
  induction h with
  | nil => rfl
  | cons hfirst _ ih => rw [List.map_cons, List.map_cons, hfirst.1, ih]

/-- The components are placed in the order in which they are told. -/
theorem forall₂_order {margin gap : Length} (hkind : d.layout = .border margin gap)
    {p : BorderProperties} (h : List.Forall₂ IsInRegion d.numbered p.regions) :
    List.Forall₂ IsInRegion d.inOrder p.order := by
  rw [inOrder, hkind]
  refine List.rel_append (List.rel_filter ?_ h) (List.rel_filter ?_ h)
  · intro entry a hregion
    simp only [isCentral_of_isInRegion hregion]
  · intro entry a hregion
    simp only [isCentral_of_isInRegion hregion]

end Description

namespace BorderProperties

theorem getElem?_entriesAfter (taken : List BorderRegion)
    (order : List (ComponentId × BorderRegion)) (i : Nat) :
    (entriesAfter taken order)[i]? = (order[i]?).map fun entry =>
      ⟨entry.1, placementIn (((order.take i).map Prod.snd).reverse ++ taken) entry.2⟩ := by
  induction order generalizing taken i with
  | nil => rfl
  | cons entry order ih =>
    cases i with
    | zero => rfl
    | succ i => simp [entriesAfter, ih]

end BorderProperties

namespace Description

variable {d : Description}

/-! ## All kinds of layouts -/

/-- The entry at an index of the order has the number and the placement of its component. -/
theorem Makes.getElem?_components {l : Layout} {g : Grid} (h : d.Makes l g) {i : Nat}
    {id : ComponentId} {c : ComponentDescription} (hi : d.inOrder[i]? = some (id, c)) :
    ∃ p, d.PlacedAt i c p ∧ g.components[i]? = some ⟨id, p⟩ := by
  unfold PlacedAt
  rcases h.cases with ⟨_, _, _, _, hkind, hfree⟩ |
    ⟨margin, gap, regions, hkind, hregions, hnodup, hgrid⟩ | ⟨_, _, _, hkind, hgrid⟩
  · simp only [inOrder, hkind] at hi ⊢
    obtain ⟨⟨_, p⟩, he, rfl, hp⟩ := getElem?_of_forall₂ hfree.components hi
    exact ⟨p, hp, he⟩
  · let p : BorderProperties := ⟨.uniform margin gap, d.canShrink, regions⟩
    have horder : List.Forall₂ IsInRegion d.inOrder p.order := forall₂_order hkind hregions
    obtain ⟨⟨_, region⟩, hentry, rfl, hregion⟩ := getElem?_of_forall₂ horder hi
    have htaken := filterMap_region_of_isInRegion (List.forall₂_take i horder)
    -- only which regions are taken matters, not in which order
    let taken := (p.order.take i).map Prod.snd
    have hplaced : BorderProperties.placementIn (taken.reverse ++ []) region =
        BorderProperties.placementIn taken region :=
      BorderProperties.placementIn_congr (fun x _ => by simp) region
    simp only [hkind, htaken]
    refine ⟨_, ⟨region, hregion, rfl⟩, ?_⟩
    rw [hgrid.components, BorderProperties.entries_eq hnodup.regions,
      BorderProperties.getElem?_entriesAfter, hentry, Option.map_some, hplaced]
  · have hbutton : (d.numbered.map Prod.fst)[i]? = some id := by
      rw [inOrder, hkind] at hi
      exact (List.getElem?_map ..).trans (congrArg (Option.map Prod.fst) hi)
    simp only [hkind]
    refine ⟨_, rfl, ?_⟩
    rw [hgrid.components, ButtonBarProperties.getElem?_entries, hbutton, Option.map_some]

/-- The grid has the components in their order, each of them once. -/
theorem Makes.map_id_components {l : Layout} {g : Grid} (h : d.Makes l g) :
    g.components.map Entry.id = d.inOrder.map Prod.fst := by
  rcases h.cases with ⟨_, _, _, _, hkind, hfree⟩ |
    ⟨margin, gap, regions, hkind, hregions, hnodup, hgrid⟩ | ⟨_, _, _, hkind, hgrid⟩
  · rw [inOrder, hkind]
    exact map_id_of_isPlaced hfree.components
  · let p : BorderProperties := ⟨.uniform margin gap, d.canShrink, regions⟩
    have horder : List.Forall₂ IsInRegion d.inOrder p.order := forall₂_order hkind hregions
    rw [hgrid.components, BorderProperties.entries_eq hnodup.regions,
      BorderProperties.map_id_entriesAfter, map_fst_of_isInRegion horder]
  · rw [hgrid.components, ButtonBarProperties.map_id_entries, inOrder, hkind]

/-- At most one component of a border layout is in the centre. -/
theorem Makes.length_central_le {l : Layout} {g : Grid} (h : d.Makes l g) {margin gap : Length}
    (hkind : d.layout = .border margin gap) :
    (d.numbered.filter fun entry => entry.2.isCentral).length ≤ 1 := by
  rcases h.cases with ⟨_, _, _, _, hother, -⟩ | ⟨margin, gap, regions, -, hregions, hnodup, -⟩ |
    ⟨_, _, _, hother, -⟩
  · exact absurd (hkind.symm.trans hother) nofun
  · have hcentral : List.Forall₂ IsInRegion (d.numbered.filter fun entry => entry.2.isCentral)
        (BorderProperties.atCenter ⟨.uniform margin gap, d.canShrink, regions⟩) :=
      List.rel_filter (fun entry a hregion => by simp only [isCentral_of_isInRegion hregion])
        hregions
    rw [hcentral.length_eq]
    exact BorderProperties.length_atCenter_le hnodup.regions
  · exact absurd (hkind.symm.trans hother) nofun

end Description

end GridLayout

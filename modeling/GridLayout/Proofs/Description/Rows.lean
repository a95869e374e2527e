import GridLayout.Proofs.Description.Order
import GridLayout.Proofs.Grid.Accounting

/-!
# The rows of a layout report

A layout report has one row for each component of the description, with its own name and the
rectangle that the solver computes from its own sizes and its own placement. Where no extent of the
container is given, the report is that of the preferred size, if 32 bits hold it.

* `LayoutReport.IsRow` and `LayoutReport.IsFaithful`: what the report tells of a component, and of
  all of them.
* `Description.isFaithful_of_layoutReport`: every layout report is faithful.
-/

namespace GridLayout

/-! ## The rectangles of an arrangement -/

namespace Grid

variable {g : Grid} {m : Measures}

theorem fst_of_bound {sizes positions : PerAxis (List Int)} {e : Entry} {b : ComponentId × Rect}
    (h : g.bound m sizes positions e = .ok b) : b.1 = e.id := by
  obtain ⟨x, -, h⟩ := bind_eq_ok_iff.1 h
  obtain ⟨y, -, h⟩ := bind_eq_ok_iff.1 h
  obtain rfl := Except.ok.inj h
  rfl

/-- The rectangles are computed entry by entry from the sizes and the positions. -/
theorem mapM_bound_of_scanArrange {insets : Insets} {container : Size} {a : Arrangement}
    (h : g.scanArrange m insets container = .ok a) :
    g.components.mapM (g.bound m a.sizes a.positions) = .ok a.bounds := by
  obtain ⟨columns, -, h⟩ := bind_eq_ok_iff.1 h
  obtain ⟨rows, -, h⟩ := bind_eq_ok_iff.1 h
  obtain ⟨bounds, hbounds, h⟩ := bind_eq_ok_iff.1 h
  obtain rfl := Except.ok.inj h
  exact hbounds

end Grid

/-- A grid with nothing kept answers as by scanning its components. -/
theorem CachedGrid.answer_ofGrid (g : Grid) (q : Query) :
    ((CachedGrid.ofGrid g).answer q).1 = q.scan g :=
  (q.computes_ask g .empty (Cache.agrees_empty g)).1

/-! ## Rows -/

namespace LayoutReport

/-- The row at an index is that of a component: it has its name, the component measures what is said
of it, its entry in the grid has its placement, and its rectangle is computed from both. -/
structure IsRow (row : String × Rect) (d : Description) (g : Grid) (a : Arrangement) (i : Nat)
    (id : ComponentId) (c : ComponentDescription) : Prop where
  name : row.1 = c.name
  measured : ∀ axis, d.platform.measures.preferred id axis = c.sizes.preferred.along axis ∧
    d.platform.measures.minimum id axis = c.sizes.minimum.along axis
  placed : ∃ p, d.PlacedAt i c p ∧ g.components[i]? = some ⟨id, p⟩ ∧
    g.bound d.platform.measures a.sizes a.positions ⟨id, p⟩ = .ok (id, row.2)

/-- The report tells of every component of the description, in order, what the solver computes for
it on the grid. -/
structure IsFaithful (r : LayoutReport) (d : Description) (width height : Option Int)
    (s : SizeReport) (g : Grid) (a : Arrangement) : Prop where
  sizeReport : d.sizeReport = .ok s
  container : r.container = d.containerSize width height s.preferred
  arrange : ((CachedGrid.ofGrid g).answer
    (.arrange d.platform.measures d.insets r.container)).1 = .ok a
  sizes : r.sizes = a.sizes
  /-- The order is that of the description, but for the one component in the centre. -/
  perm : d.inOrder.Perm d.numbered
  central : ∀ margin gap, d.layout = .border margin gap →
    (d.numbered.filter fun entry => entry.2.isCentral).length ≤ 1
  components : g.components.map Entry.id = d.inOrder.map Prod.fst
  length : r.components.length = d.components.length
  rows : ∀ i id c, d.inOrder[i]? = some (id, c) →
    ∃ row, r.components[i]? = some row ∧ IsRow row d g a i id c
  /-- Along an axis without a given extent the container has the preferred size and the insets, and
  the tracks have their preferred sizes, unless these are cut when they are added up. -/
  unconstrained : ∀ axis, (PerAxis.mk width height).along axis = none → d.container = none →
    r.container.along axis = wrap (s.preferred.along axis +
        (PerAxis.mk d.insets.horizontal d.insets.vertical).along axis) ∧
      ∃ sizes, ((CachedGrid.ofGrid g).answer
          (.groupedSizes d.platform.measures .preferred axis)).1 = .ok sizes ∧
        (Representable (total sizes) → r.sizes.along axis = sizes)

end LayoutReport

namespace Description

variable {d : Description}

theorem nameOf_eq {id : ComponentId} {c : ComponentDescription} (h : (id, c) ∈ d.numbered) :
    d.nameOf id = c.name := by
  simp [nameOf, mem_numbered.1 h]

/-- The size of the container along an axis for which no extent is given. -/
theorem along_containerSize {width height : Option Int} {axis : Axis} (preferred : Size)
    (hargument : (PerAxis.mk width height).along axis = none) (hcontainer : d.container = none) :
    (d.containerSize width height preferred).along axis = wrap (preferred.along axis +
      (PerAxis.mk d.insets.horizontal d.insets.vertical).along axis) := by
  cases axis with
  | horizontal =>
    obtain rfl : width = none := hargument
    simp [containerSize, hcontainer, Size.along, PerAxis.along]
  | vertical =>
    obtain rfl : height = none := hargument
    simp [containerSize, hcontainer, Size.along, PerAxis.along]

/-- The rectangle at an index of the order is that of the component at that index. -/
theorem exists_isRow {l : Layout} {g : Grid} (hmakes : d.Makes l g) {container : Size}
    {a : Arrangement} (ha : g.scanArrange d.platform.measures d.insets container = .ok a) {i : Nat}
    {id : ComponentId} {c : ComponentDescription} (hi : d.inOrder[i]? = some (id, c)) :
    ∃ rect, a.bounds[i]? = some (id, rect) ∧ LayoutReport.IsRow (c.name, rect) d g a i id c := by
  obtain ⟨p, hplaced, hentry⟩ := hmakes.getElem?_components hi
  obtain ⟨⟨id', rect⟩, hrect, hbound⟩ :=
    getElem?_of_forall₂ (mapM_eq_ok_iff.1 (Grid.mapM_bound_of_scanArrange ha)) hentry
  obtain rfl : id' = id := Grid.fst_of_bound hbound
  exact ⟨rect, hrect, rfl, measures_platform (mem_numbered_of_getElem?_inOrder hi),
    p, hplaced, hentry, hbound⟩

/-- Where the container has the preferred size and the insets, the tracks have their preferred
sizes, if 32 bits hold their total. -/
theorem groupedSizes_of_along_eq {g : Grid} {m : Measures} {insets : Insets} {container : Size}
    {preferred : Size} {a : Arrangement} {axis : Axis}
    (hpreferred : g.scanTotalSize m .preferred = .ok preferred)
    (ha : g.scanArrange m insets container = .ok a)
    (haxis : container.along axis = wrap (preferred.along axis +
      (PerAxis.mk insets.horizontal insets.vertical).along axis)) :
    ∃ sizes, g.scanGroupedSizes m .preferred axis = .ok sizes ∧
      (Representable (total sizes) → a.sizes.along axis = sizes) := by
  obtain ⟨hcheck, hgroups, rfl⟩ := Grid.scanArrange_eq_ok_iff.1 ha
  obtain ⟨-, -, rfl⟩ := (Grid.scanTotalSize_eq_ok_iff m).1 hpreferred
  refine ⟨_, (g.scanGroupedSizes_eq_ok_iff m .preferred axis).2 ⟨hcheck, hgroups axis, rfl⟩,
    fun htotal => ?_⟩
  have hcontent : (insets.shrink container).along axis =
      total (g.equalizedSizes m .preferred axis) := by
    rw [Size.along_ofPerAxis_ofFun, wrap_eq_self htotal] at haxis
    cases axis <;> simp only [Insets.shrink, Size.along, PerAxis.along] at haxis ⊢ <;>
      rw [haxis, wrap_wrap_sub, add_sub_cancel_right, wrap_eq_self htotal]
  rw [Grid.sizes_arranged, Grid.sharedSizes_of_total_eq m htotal hcontent.symm]

/-- A border layout with its centre between two edges, two components of one name. -/
def threeRegions : Description :=
  ⟨.default, none, true, .border (.pixels 5) (.pixels 2),
    [⟨"edge", ⟨30, 20⟩, none, none, none, none, 1, 1, some "west"⟩,
      ⟨"middle", ⟨100, 50⟩, some 10, none, none, none, 1, 1, none⟩,
      ⟨"edge", ⟨40, 10⟩, none, none, none, none, 1, 1, some " North "⟩]⟩

/-- On a screen with a negative font size, two columns as narrow as 32 bits can say. -/
def narrowColumns : Description :=
  ⟨⟨96, .ofInt (-1000000000000)⟩, none, true,
    .free "preferred(1dlu)/50, preferred(1dlu)/50" "preferred" [] [], []⟩

end Description

end GridLayout

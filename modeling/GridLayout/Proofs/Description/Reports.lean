import GridLayout.Proofs.Description.Prepared
import GridLayout.Report

/-!
# What reports are computed from

A report of a description is computed from the grid of its layout, with the measures of its
platform. What was asked of the layout before makes no difference.

* `Description.Makes`: the layout of a description, and its grid; `Description.Makes.cases` by kind.
* `Description.check_eq_ok_iff`, `Description.sizeReport_eq_ok_iff` and
  `Description.layoutReport_eq_ok_iff`: when there are reports, and which they are.
-/

namespace GridLayout

/-- Asking a layout leaves the grid that it would make. -/
theorem Layout.build_answer (l : Layout) (q : Query) : (l.answer q).2.build = l.build := by
  cases l with
  | free g => rfl
  | border b =>
    obtain ⟨grid, hgrid⟩ := border_answer b q
    rw [hgrid]
    rfl
  | buttons b =>
    obtain ⟨grid, hgrid⟩ := buttons_answer b q
    rw [hgrid]
    rfl

namespace Description

variable {d : Description}

/-- The description makes the layout, and that makes the grid. -/
structure Makes (d : Description) (l : Layout) (g : Grid) : Prop where
  layout : d.makeLayout = .ok l
  grid : l.build = .ok g

/-- The grid that is made, by the kind of the layout. -/
theorem Makes.cases {l : Layout} {g : Grid} (h : d.Makes l g) :
    (∃ columns rows columnGroups rowGroups,
      d.layout = .free columns rows columnGroups rowGroups ∧
      d.IsFreeGrid columns rows columnGroups rowGroups g) ∨
    (∃ margin gap regions, d.layout = .border margin gap ∧
      List.Forall₂ IsInRegion d.numbered regions ∧
      BorderProperties.NodupRegions ⟨.uniform margin gap, d.canShrink, regions⟩ ∧
      BorderProperties.IsGrid ⟨.uniform margin gap, d.canShrink, regions⟩ g) ∨
    ∃ margin gap alignment, d.layout = .buttons margin gap alignment ∧
      ButtonBarProperties.IsGrid ⟨ButtonBarProperties.uniformSpacing margin gap, alignment,
        d.canShrink, d.numbered.map Prod.fst⟩ g := by
  rcases makeLayout_cases h.layout with ⟨_, _, _, _, g', hkind, hfree, rfl⟩ |
    ⟨_, _, regions, hkind, hregions, hnodup, rfl⟩ | ⟨_, _, _, hkind, rfl⟩
  · obtain rfl := Except.ok.inj h.grid
    exact .inl ⟨_, _, _, _, hkind, hfree⟩
  · exact .inr (.inl ⟨_, _, regions, hkind, hregions, hnodup,
      BorderProperties.isGrid_of_build hnodup h.grid⟩)
  · exact .inr (.inr ⟨_, _, _, hkind,
      ButtonBarProperties.isGrid_of_build nodup_map_fst_numbered h.grid⟩)

/-- The name of the component of a number. -/
def nameOf (d : Description) (id : ComponentId) : String :=
  ((d.components.map ComponentDescription.name)[id.value]?).getD "?"

theorem prepare_eq_ok_iff {p : Prepared} : d.prepare = .ok p ↔ ∃ l, d.makeLayout = .ok l ∧
    p = ⟨l, d.platform, d.components.map ComponentDescription.name⟩ := by
  unfold prepare
  rw [bind_eq_ok_iff]
  exact exists_congr fun l => and_congr_right fun _ =>
    ⟨fun h => (Except.ok.inj h).symm, fun h => h ▸ rfl⟩

/-- The layout that is made, also after it was asked something, answers as by scanning the
components of its grid. -/
theorem answer_eq_ok_iff {l l' : Layout} (hl : d.makeLayout = .ok l) (hfresh : l'.Fresh)
    (hbuild : l'.build = l.build) {q : Query} {a : q.Answer} :
    (l'.answer q).1.mapError DescriptionFault.layout = .ok a ↔
      ∃ g, d.Makes l g ∧ q.scan g = .ok a := by
  rw [mapError_eq_ok_iff, (hfresh.answer q).1, hbuild, bind_eq_ok_iff]
  exact exists_congr fun g => and_congr_left' ⟨fun hg => ⟨hl, hg⟩, Makes.grid⟩

/-- The check succeeds exactly if there is a grid without a fault. -/
theorem check_eq_ok_iff {n : Nat} : d.check = .ok n ↔
    (∃ l g, d.Makes l g ∧ g.check = .ok ()) ∧ n = d.components.length := by
  have hvalid {l : Layout} (hl : d.makeLayout = .ok l) :=
    answer_eq_ok_iff hl (fresh_makeLayout hl) rfl (q := .validate) (a := ())
  unfold check
  rw [bind_eq_ok_iff]
  constructor
  · rintro ⟨p, hp, h⟩
    obtain ⟨l, hl, rfl⟩ := prepare_eq_ok_iff.1 hp
    obtain ⟨_, hchecked, hn⟩ := bind_eq_ok_iff.1 h
    obtain ⟨g, hmakes, hcheck⟩ := (hvalid hl).1 hchecked
    obtain rfl := Except.ok.inj hn
    exact ⟨⟨l, g, hmakes, hcheck⟩, by simp⟩
  · rintro ⟨⟨l, g, hmakes, hcheck⟩, rfl⟩
    refine ⟨_, prepare_eq_ok_iff.2 ⟨l, hmakes.layout, rfl⟩, bind_eq_ok_iff.2 ⟨(), ?_, ?_⟩⟩
    · exact (hvalid hmakes.layout).2 ⟨g, hmakes, hcheck⟩
    · simp [pure, Except.pure]

/-- The reported sizes are those of the grid. -/
theorem sizeReport_eq_ok_iff {r : SizeReport} : d.sizeReport = .ok r ↔ ∃ l g, d.Makes l g ∧
    (Query.preferredSize d.platform.measures).scan g = .ok r.preferred ∧
    (Query.minimumSize d.platform.measures).scan g = .ok r.minimum := by
  let q := Query.preferredSize d.platform.measures
  have hpreferred {l : Layout} (hl : d.makeLayout = .ok l) {s : Size} :=
    answer_eq_ok_iff hl (fresh_makeLayout hl) rfl (q := q) (a := s)
  have hminimum {l : Layout} (hl : d.makeLayout = .ok l) {s : Size} :=
    answer_eq_ok_iff hl ((fresh_makeLayout hl).answer q).2 (l.build_answer q)
      (q := .minimumSize d.platform.measures) (a := s)
  unfold sizeReport
  rw [bind_eq_ok_iff]
  constructor
  · rintro ⟨p, hp, h⟩
    obtain ⟨l, hl, rfl⟩ := prepare_eq_ok_iff.1 hp
    obtain ⟨preferred, hfirst, h⟩ := bind_eq_ok_iff.1 h
    obtain ⟨minimum, hsecond, hr⟩ := bind_eq_ok_iff.1 h
    obtain rfl := Except.ok.inj hr
    obtain ⟨g, hmakes, hfirst⟩ := (hpreferred hl).1 hfirst
    obtain ⟨g', hmakes', hsecond⟩ := (hminimum hl).1 hsecond
    obtain rfl := Except.ok.inj (hmakes.grid.symm.trans hmakes'.grid)
    exact ⟨l, g, hmakes, hfirst, hsecond⟩
  · rintro ⟨l, g, hmakes, hfirst, hsecond⟩
    refine ⟨_, prepare_eq_ok_iff.2 ⟨l, hmakes.layout, rfl⟩, ?_⟩
    refine bind_eq_ok_iff.2 ⟨r.preferred, ?_, bind_eq_ok_iff.2 ⟨r.minimum, ?_, rfl⟩⟩
    · exact (hpreferred hmakes.layout).2 ⟨g, hmakes, hfirst⟩
    · exact (hminimum hmakes.layout).2 ⟨g, hmakes, hsecond⟩

/-- The reported layout is that of the grid in the container that is asked for. -/
theorem layoutReport_eq_ok_iff {width height : Option Int} {r : LayoutReport} :
    d.layoutReport width height = .ok r ↔ ∃ l g preferred a, d.Makes l g ∧
      (Query.preferredSize d.platform.measures).scan g = .ok preferred ∧
      (Query.arrange d.platform.measures d.insets (d.containerSize width height preferred)).scan g =
        .ok a ∧
      r = ⟨d.containerSize width height preferred, a.sizes,
        a.bounds.map fun (id, rect) => (d.nameOf id, rect)⟩ := by
  let q := Query.preferredSize d.platform.measures
  have hpreferred {l : Layout} (hl : d.makeLayout = .ok l) {s : Size} :=
    answer_eq_ok_iff hl (fresh_makeLayout hl) rfl (q := q) (a := s)
  have harrange {l : Layout} (hl : d.makeLayout = .ok l) {container : Size} {a : Arrangement} :
      ((l.answer q).2.perform d.platform d.insets container).1.mapError DescriptionFault.layout =
        .ok a ↔ ∃ g, d.Makes l g ∧
          (Query.arrange d.platform.measures d.insets container).scan g = .ok a := by
    rw [Layout.perform_eq_answer]
    exact answer_eq_ok_iff hl ((fresh_makeLayout hl).answer q).2 (l.build_answer q)
  unfold layoutReport
  rw [bind_eq_ok_iff]
  constructor
  · rintro ⟨p, hp, h⟩
    obtain ⟨l, hl, rfl⟩ := prepare_eq_ok_iff.1 hp
    obtain ⟨preferred, hfirst, h⟩ := bind_eq_ok_iff.1 h
    obtain ⟨a, hsecond, hr⟩ := bind_eq_ok_iff.1 h
    obtain rfl := Except.ok.inj hr
    obtain ⟨g, hmakes, hfirst⟩ := (hpreferred hl).1 hfirst
    obtain ⟨g', hmakes', hsecond⟩ := (harrange hl).1 hsecond
    obtain rfl := Except.ok.inj (hmakes.grid.symm.trans hmakes'.grid)
    exact ⟨l, g, preferred, a, hmakes, hfirst, hsecond, rfl⟩
  · rintro ⟨l, g, preferred, a, hmakes, hfirst, hsecond, rfl⟩
    refine ⟨_, prepare_eq_ok_iff.2 ⟨l, hmakes.layout, rfl⟩, ?_⟩
    refine bind_eq_ok_iff.2 ⟨preferred, ?_, bind_eq_ok_iff.2 ⟨a, ?_, rfl⟩⟩
    · exact (hpreferred hmakes.layout).2 ⟨g, hmakes, hfirst⟩
    · exact (harrange hmakes.layout).2 ⟨g, hmakes, hsecond⟩

end Description

end GridLayout

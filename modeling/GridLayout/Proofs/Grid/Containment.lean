import GridLayout.Proofs.Grid.Arrangement
import GridLayout.Proofs.Grid.History

/-!
# Components inside their cells

Along an axis that does not shrink, a component that covers a single track, or one that is not
fixed, has at least the extent it claims by its preferred size, and lies inside its cells. Nothing
later takes back what its cells were granted: sizes only grow, and each track starts where the one
before ends. Where no least size is negative, components in different cells do not overlap. Sizes
and positions that 32 bits do not hold are cut, and then none of this is so.

* `Alignment.interval_within`: every alignment stays inside the space of the cells.
* `Arrangement.Holds`: what is guaranteed to one component.
* `CachedGrid.contained_of_arrange`: the guarantee for every layout of a reachable grid.
-/

namespace GridLayout

/-! ## One component -/

/-- An extent is placed by its alignment where 32 bits say, if they can. -/
theorem Alignment.interval_fst {alignment : Alignment} {start available size : Int}
    (hslack : alignment = .center → Representable (available - size))
    (hfit : Representable (start + alignment.offset (available - size))) :
    (alignment.interval start available size).1 = start + alignment.offset (available - size) := by
  cases alignment with
  | fill | leading => exact (add_zero start).symm
  | center =>
    simp only [Alignment.interval, wrap_eq_self (hslack rfl)]
    exact wrap_eq_self hfit
  | trailing =>
    simp only [Alignment.interval, add_sub_assoc]
    exact wrap_eq_self hfit

/-- An extent that is not larger than the space is placed inside it by every alignment. -/
theorem Alignment.interval_within {alignment : Alignment} {start available size : Int}
    (hslack : alignment = .center → Representable (available - size))
    (hfit : Representable (start + alignment.offset (available - size))) (h : size ≤ available) :
    start ≤ (alignment.interval start available size).1 ∧
      size ≤ (alignment.interval start available size).2 ∧
      (alignment.interval start available size).1 + (alignment.interval start available size).2 ≤
        start + available := by
  rw [Alignment.interval_fst hslack hfit]
  cases alignment <;> simp only [Alignment.interval, Alignment.offset] <;> omega

/-- Along an axis the rectangle has at least the extent that the component claims by its preferred
size, and lies inside the cells that it covers. -/
structure Arrangement.Holds (a : Arrangement) (g : Grid) (m : Measures) (axis : Axis) (e : Entry)
    (r : Rect) : Prop where
  claim_le : g.claim m .preferred axis e ≤ (r.intervals.along axis).2
  start_le : (a.positions.along axis).getD (e.placement.along axis).start 0 ≤
    (r.intervals.along axis).1
  le_stop : (r.intervals.along axis).1 + (r.intervals.along axis).2 ≤
    (a.positions.along axis).getD ((e.placement.along axis).stop - 1) 0 +
      (a.sizes.along axis).getD ((e.placement.along axis).stop - 1) 0

/-- Along an axis the rectangle ends before the other one starts. -/
def Rect.EndsBefore (axis : Axis) (r r' : Rect) : Prop :=
  (r.intervals.along axis).1 + (r.intervals.along axis).2 ≤ (r'.intervals.along axis).1

namespace Grid

variable {g : Grid} {m : Measures} {insets : Insets} {container : Size} {axis : Axis}

/-- The cells of a component leave it the space that it claims, if the axis does not shrink. -/
theorem claim_le_extent_sharedSizes (hcheck : g.check = .ok ()) (hgroups : g.GroupsInside axis)
    {length : Int} (hfit : g.SizingFits m axis length) (hkeeps : g.KeepsPreferred m axis length)
    {e : Entry} (he : e ∈ g.components) (hstretch : e.CanStretch g axis) :
    g.claim m .preferred axis e ≤
      (e.placement.along axis).extent (g.sharedSizes m axis length) := by
  have hpass : g.fittingPass m axis length = .preferred := if_pos hkeeps
  have hbase := claim_le_extent_equalizedSizes hgroups (hpass ▸ hfit.pass) he
    (fits_of_check hcheck he) hstretch
  have hgrown := hfit.grownAt
  rw [hpass] at hgrown
  exact hbase.trans (hgrown.extent_le _)

theorem holds_arranged (hcheck : g.check = .ok ()) (hgroups : g.GroupsInside axis)
    (hfit : g.LayoutFits m axis insets container)
    (hkeeps : g.KeepsPreferred m axis ((insets.shrink container).along axis)) {e : Entry}
    (he : e ∈ g.components) (hstretch : e.CanStretch g axis) :
    (g.arranged m insets container).Holds g m axis e
      (g.placed m (g.arranged m insets container).sizes
        (g.arranged m insets container).positions e).2 := by
  have hfits := fits_of_check hcheck he
  have hstop := hfits.stop_le axis
  rw [← length_sharedSizes hgroups ((insets.shrink container).along axis)] at hstop
  have hclaim := claim_le_extent_sharedSizes hcheck hgroups hfit.sizing hkeeps he hstretch
  have hstart := getD_positions hfit.places.positions
    ((Nat.lt_add_of_pos_right (hfits.span_pos axis)).trans_le hstop)
  obtain ⟨hlow, hextent, hhigh⟩ := Alignment.interval_within (hfit.places.slack e he)
    (hstart ▸ hfit.places.aligned e he) hclaim
  have hcut := wrap_eq_self (hfit.places.extent e he)
  constructor
  · simpa only [intervals_placed, interval, sizes_arranged, positions_arranged, hcut] using hextent
  · simpa only [intervals_placed, interval, sizes_arranged, positions_arranged, hcut] using hlow
  · simp only [intervals_placed, interval, sizes_arranged, positions_arranged, hcut]
    rw [getD_positions_last hfit.places.positions (hfits.span_pos axis) hstop]
    exact hhigh

/-! ## Two components -/

/-- Where no least size is negative, no size is. -/
theorem sharedSizes_nonneg (hgroups : g.GroupsInside axis) {length : Int}
    (hfit : g.SizingFits m axis length)
    (hminimum : ∀ track ∈ g.tracks axis, 0 ≤ track.minimum.toPixels m.metrics axis) (i : Nat) :
    0 ≤ (g.sharedSizes m axis length).getD i 0 := by
  have hlen := length_sharedSizes (m := m) hgroups length
  by_cases hi : i < g.count axis
  · obtain ⟨track, htrack⟩ : ∃ track, (g.tracks axis)[i]? = some track :=
      ⟨_, List.getElem?_eq_getElem hi⟩
    have hbase := minimum_le_equalizedSizes hgroups hfit.pass htrack
    have hgrown := hfit.grownAt.le i
    have hzero := hminimum track (List.mem_of_getElem? htrack)
    omega
  · rw [List.getD_eq_getElem?_getD, List.getElem?_eq_none (by omega), Option.getD_none]

/-- A component ends before the next cells start, and so before a component in them. -/
theorem endsBefore_of_stop_le (hcheck : g.check = .ok ()) (hgroups : g.GroupsInside axis)
    (hfit : g.LayoutFits m axis insets container)
    (hminimum : ∀ track ∈ g.tracks axis, 0 ≤ track.minimum.toPixels m.metrics axis)
    {e e' : Entry} (he : e ∈ g.components) (he' : e' ∈ g.components)
    (hstop : (e.placement.along axis).stop ≤ (e'.placement.along axis).start) {r r' : Rect}
    (hholds : (g.arranged m insets container).Holds g m axis e r)
    (hholds' : (g.arranged m insets container).Holds g m axis e' r') : r.EndsBefore axis r' := by
  have hfits := fits_of_check hcheck he
  have hlen := length_sharedSizes (m := m) hgroups ((insets.shrink container).along axis)
  have hlow := hholds'.start_le
  have hhigh := hholds.le_stop
  simp only [sizes_arranged, positions_arranged] at hlow hhigh
  rw [getD_positions_last hfit.places.positions (hfits.span_pos axis)
    (hlen ▸ hfits.stop_le axis)] at hhigh
  have hbetween := positions_add_extent_le hfit.places.positions
    (sharedSizes_nonneg hgroups hfit.sizing hminimum) (hfits.span_pos axis) hstop
    (hlen ▸ (fits_of_check hcheck he').start_lt axis)
  unfold Rect.EndsBefore
  omega

/-- Components in different tracks do not overlap. -/
theorem endsBefore_or_of_disjoint (hcheck : g.check = .ok ()) (hgroups : g.GroupsInside axis)
    (hfit : g.LayoutFits m axis insets container)
    (hminimum : ∀ track ∈ g.tracks axis, 0 ≤ track.minimum.toPixels m.metrics axis)
    {e e' : Entry} (he : e ∈ g.components) (he' : e' ∈ g.components)
    (hdisjoint : ∀ k, ¬((e.placement.along axis).Covers k ∧ (e'.placement.along axis).Covers k))
    {r r' : Rect} (hholds : (g.arranged m insets container).Holds g m axis e r)
    (hholds' : (g.arranged m insets container).Holds g m axis e' r') :
    r.EndsBefore axis r' ∨ r'.EndsBefore axis r := by
  have hspan := (fits_of_check hcheck he).start_lt_stop axis
  have hspan' := (fits_of_check hcheck he').start_lt_stop axis
  by_cases hbefore : (e.placement.along axis).stop ≤ (e'.placement.along axis).start
  · exact .inl (endsBefore_of_stop_le hcheck hgroups hfit hminimum he he' hbefore hholds hholds')
  · by_cases hafter : (e'.placement.along axis).stop ≤ (e.placement.along axis).start
    · exact .inr (endsBefore_of_stop_le hcheck hgroups hfit hminimum he' he hafter hholds' hholds)
    · -- otherwise both cover the later of the two start tracks
      refine absurd ?_ (hdisjoint (max (e.placement.along axis).start
        (e'.placement.along axis).start))
      unfold Slot.Covers
      omega

end Grid

namespace CachedGrid

variable {g : CachedGrid}

/-- A layout of a reachable grid is the arrangement of its sizes and positions. -/
theorem Reachable.arranged_of_answer (h : g.Reachable) {m : Measures} {insets : Insets}
    {container : Size} {a : Arrangement}
    (harrange : (g.answer (.arrange m insets container)).1 = .ok a) :
    g.grid.check = .ok () ∧ (∀ axis, g.grid.GroupsInside axis) ∧
      a = g.grid.arranged m insets container := by
  rw [h.answer_eq_scan] at harrange
  exact Grid.scanArrange_eq_ok_iff.1 harrange

/-- The axis does not shrink if the sizes that the grid answers with say so. -/
theorem Reachable.keepsPreferred (h : g.Reachable) {m : Measures} {axis : Axis} {length : Int}
    (hfit : g.grid.SizingFits m axis length)
    (hroom : g.grid.canShrink = false ∨ ∃ preferred,
      (g.answer (.groupedSizes m .preferred axis)).1 = .ok preferred ∧ total preferred ≤ length) :
    g.grid.KeepsPreferred m axis length := by
  rw [hfit.keepsPreferred_iff]
  rcases hroom with hcannot | ⟨preferred, hpreferred, hle⟩
  · exact .inl hcannot
  · rw [h.answer_eq_scan] at hpreferred
    obtain ⟨-, -, rfl⟩ := (g.grid.scanGroupedSizes_eq_ok_iff m .preferred axis).1 hpreferred
    exact .inr hle

/-- **Nothing is clipped and nothing overlaps without shrinking**: in every layout of a reachable
grid, along an axis that is laid out in 32 bits and does not shrink, every component that covers a
single track or one that is not fixed has the extent it claims by its preferred size and lies inside
its cells; and if no least size is negative, two such components in different tracks are apart. -/
theorem contained_of_arrange (h : g.Reachable) {m : Measures} {insets : Insets} {container : Size}
    {a : Arrangement} (harrange : (g.answer (.arrange m insets container)).1 = .ok a) {axis : Axis}
    (hfit : g.grid.LayoutFits m axis insets container)
    (hroom : g.grid.canShrink = false ∨ ∃ preferred,
      (g.answer (.groupedSizes m .preferred axis)).1 = .ok preferred ∧
        total preferred ≤ (insets.shrink container).along axis) :
    (∀ (i : Nat) (e : Entry), g.grid.components[i]? = some e → e.CanStretch g.grid axis →
      ∃ r, a.bounds[i]? = some (e.id, r) ∧ a.Holds g.grid m axis e r) ∧
    ((∀ track ∈ g.grid.tracks axis, 0 ≤ track.minimum.toPixels m.metrics axis) →
      ∀ (i i' : Nat) (e e' : Entry) (r r' : Rect),
        g.grid.components[i]? = some e → g.grid.components[i']? = some e' →
        e.CanStretch g.grid axis → e'.CanStretch g.grid axis →
        (∀ k, ¬((e.placement.along axis).Covers k ∧ (e'.placement.along axis).Covers k)) →
        a.bounds[i]? = some (e.id, r) → a.bounds[i']? = some (e'.id, r') →
          r.EndsBefore axis r' ∨ r'.EndsBefore axis r) := by
  obtain ⟨hcheck, hgroups, rfl⟩ := h.arranged_of_answer harrange
  have hkeeps := h.keepsPreferred hfit.sizing hroom
  have hholds : ∀ (i : Nat) (e : Entry), g.grid.components[i]? = some e → e.CanStretch g.grid axis →
      ∃ r, (g.grid.arranged m insets container).bounds[i]? = some (e.id, r) ∧
        (g.grid.arranged m insets container).Holds g.grid m axis e r := by
    intro i e he hstretch
    exact ⟨_, Grid.getElem?_bounds_arranged he, Grid.holds_arranged hcheck (hgroups axis) hfit
      hkeeps (List.mem_of_getElem? he) hstretch⟩
  refine ⟨hholds, fun hminimum i i' e e' r r' he he' hstretch hstretch' hdisjoint hr hr' => ?_⟩
  obtain ⟨q, hq, hholdsq⟩ := hholds i e he hstretch
  obtain ⟨q', hq', hholdsq'⟩ := hholds i' e' he' hstretch'
  obtain rfl : q = r := by simpa [hq] using hr
  obtain rfl : q' = r' := by simpa [hq'] using hr'
  exact Grid.endsBefore_or_of_disjoint hcheck (hgroups axis) hfit hminimum (List.mem_of_getElem? he)
    (List.mem_of_getElem? he') hdisjoint hholdsq hholdsq'

/-- The edited grid has room for its two components, which do not overlap. -/
theorem contained_edited :
    let m := multiples 40 1
    let g := edited [] []
    let a : Arrangement := ⟨⟨[116, 60, 20], [80]⟩, ⟨[1, 117, 177], [2]⟩,
      [(⟨1⟩, ⟨77, 22, 40, 40⟩), (⟨2⟩, ⟨117, 2, 80, 80⟩)]⟩
    (g.answer (.arrange m ⟨1, 2, 3, 4⟩ ⟨200, 100⟩)).1 = .ok a ∧
      a.Holds g.grid m .horizontal ⟨⟨2⟩, ⟨⟨1, 2, none, none⟩, .single 0⟩⟩ ⟨117, 2, 80, 80⟩ := by
  intro m g a
  have harrange : (g.answer (.arrange m ⟨1, 2, 3, 4⟩ ⟨200, 100⟩)).1 = .ok a := by decide +kernel
  have hroom : (g.answer (.groupedSizes m .preferred .horizontal)).1 = .ok [60, 60, 20] := by
    decide +kernel
  have hstretch : Entry.CanStretch g.grid .horizontal ⟨⟨2⟩, ⟨⟨1, 2, none, none⟩, .single 0⟩⟩ :=
    .inr ⟨1, ⟨by decide, by decide⟩, .defaultColumn, by decide +kernel, by decide⟩
  have hfit : g.grid.LayoutFits m .horizontal ⟨1, 2, 3, 4⟩ ⟨200, 100⟩ := by decide +kernel
  obtain ⟨hholds, -⟩ := contained_of_arrange (reachable_edited [] []) harrange hfit
    (.inr ⟨[60, 60, 20], hroom, by decide⟩)
  obtain ⟨r, hr, hholds⟩ := hholds 1 _ (by decide +kernel) hstretch
  obtain rfl : ⟨117, 2, 80, 80⟩ = r := congrArg Prod.snd (Option.some.inj hr)
  exact ⟨harrange, hholds⟩

/-- The component in the column that takes what the narrow one leaves has no width at all, since the
width that is left is cut. Where three columns together are wider than 32 bits hold, the third one
is put over the first. -/
theorem clipped_leaning_and_overlapping_crowded :
    (let m : Measures := ⟨negativeFont, fun _ _ => 10, fun _ _ => 10⟩
      let a : Arrangement := ⟨⟨[-2147483648, -1], [10]⟩, ⟨[1000, -2147482648], [0]⟩,
        [(⟨1⟩, ⟨-2147482648, 0, -1, 10⟩)]⟩
      leaning.Reachable ∧ leaning.grid.canShrink = false ∧
        (leaning.answer (.arrange m ⟨1000, 0, -1000, 0⟩ ⟨2147483647, 10⟩)).1 = .ok a ∧
        leaning.grid.components[0]? = some ⟨⟨1⟩, .single 1 0⟩ ∧
        Entry.CanStretch leaning.grid .horizontal ⟨⟨1⟩, .single 1 0⟩ ∧
        ¬a.Holds leaning.grid m .horizontal ⟨⟨1⟩, .single 1 0⟩ ⟨-2147482648, 0, -1, 10⟩) ∧
    (let r : Rect := ⟨0, 0, 1500000000, 10⟩
      let r' : Rect := ⟨-1294967296, 0, 1500000000, 10⟩
      crowded.Reachable ∧ crowded.grid.canShrink = false ∧
        (∀ track ∈ crowded.grid.tracks .horizontal,
          0 ≤ track.minimum.toPixels wideMeasures.metrics .horizontal) ∧
        crowded.grid.components = [⟨⟨1⟩, .single 0 0⟩, ⟨⟨2⟩, .single 1 0⟩, ⟨⟨3⟩, .single 2 0⟩] ∧
        ∃ a, (crowded.answer (.arrange wideMeasures .zero ⟨100, 10⟩)).1 = .ok a ∧
          a.bounds[0]? = some (⟨1⟩, r) ∧ a.bounds[2]? = some (⟨3⟩, r') ∧
          ¬(r.EndsBefore .horizontal r' ∨ r'.EndsBefore .horizontal r)) := by
  constructor
  · intro m a
    refine ⟨reachable_leaning, by decide +kernel, by decide +kernel, by decide +kernel, .inl rfl,
      fun hholds => ?_⟩
    exact absurd hholds.claim_le (by decide +kernel)
  · intro r r'
    refine ⟨reachable_crowded, by decide +kernel, by decide +kernel, by decide +kernel,
      ⟨⟨List.replicate 3 1500000000, [10]⟩, ⟨[0, 1500000000, -1294967296], [0]⟩,
        [(⟨1⟩, r), (⟨2⟩, ⟨1500000000, 0, 1500000000, 10⟩), (⟨3⟩, r')]⟩, by decide +kernel, rfl, rfl,
      ?_⟩
    unfold Rect.EndsBefore
    decide

end CachedGrid

end GridLayout

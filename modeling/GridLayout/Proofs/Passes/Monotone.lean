import GridLayout.Proofs.Passes.Sharing

/-!
# Larger measures give larger tracks

Without components of several tracks the size of a track is a maximum of maxima: of what its
components claim, and then, group after group, of the sizes of the members. So components that
measure more never make a track smaller. Components of several tracks are what could spoil this: a
track that starts out larger may leave nothing to enlarge, and its neighbours stay small.

* `Grid.equalizedSizes_le`: tracks on which components claim no more are no larger.
* `CachedGrid.groupedSizes_monotone`: so every reachable grid answers with sizes that grow with the
  measures, and with smaller sizes in the minimum pass than in the preferred one.
-/

namespace GridLayout

/-- Lists of one length with no value larger than its counterpart. -/
theorem forall₂_le_of_getD_le {sizes sizes' : List Int} (hlen : sizes.length = sizes'.length)
    (h : ∀ i, sizes.getD i 0 ≤ sizes'.getD i 0) : List.Forall₂ (· ≤ ·) sizes sizes' := by
  refine List.forall₂_iff_get.2 ⟨hlen, fun i hi hi' => ?_⟩
  have hle := h i
  simpa [List.getD_eq_getElem?_getD, hi, hi'] using hle

namespace Grid

variable {g : Grid} {axis : Axis} {m m' : Measures} {pass pass' : Pass}

/-- Where no component covers several tracks, a grid without faults has none that spans. -/
theorem spanning_eq_nil (hcheck : g.check = .ok ())
    (hsingle : ∀ e ∈ g.components, ¬1 < (e.placement.along axis).span) :
    g.spanning axis = [] := by
  refine List.filter_eq_nil_iff.2 fun e he hspanning => ?_
  have hpos := (fits_of_check hcheck he).span_pos axis
  have hone : (e.placement.along axis).span = 1 := by
    have hle := hsingle e he
    omega
  simp [Entry.isSpanning, hone] at hspanning

/-- Where no component spans and none claims more, no track is larger, whatever the groups. -/
theorem equalizedSizes_le (hspanning : g.spanning axis = []) (hgroups : g.GroupsInside axis)
    (hmetrics : m.metrics = m'.metrics)
    (hclaims : ∀ e ∈ g.components, g.claim m pass axis e ≤ g.claim m' pass' axis e) (i : Nat) :
    (g.equalizedSizes m pass axis).getD i 0 ≤ (g.equalizedSizes m' pass' axis).getD i 0 := by
  have hcells (m : Measures) (pass : Pass) :
      g.scanCellSizes m pass axis = g.scanBaseSizes m pass axis := by
    rw [scanCellSizes, hspanning, List.foldl_nil]
  refine equalizeAll_le_equalizeAll (p := fun _ => True) ?_ ?_ (fun _ _ _ _ => trivial)
    (fun j _ => ?_) i trivial
  · rwa [length_scanCellSizes]
  · rw [length_scanCellSizes, length_scanCellSizes]
  · rw [hcells, hcells]
    exact g.getD_scanBaseSizes_le axis hmetrics hclaims j

end Grid

namespace CachedGrid

open Grid

/-- **Monotone sizes**: in a reachable grid without faults in which no component covers several
tracks of an axis, sizes with groups exist for all measures. They are nowhere smaller in the same
pass for measures by which no component of the grid is smaller, and if no component has a larger
minimum size than preferred size, they are nowhere larger in the minimum pass than in the preferred
one. -/
theorem groupedSizes_monotone {g : CachedGrid} (h : g.Reachable)
    (hvalid : (g.answer .validate).1 = .ok ()) {axis : Axis} (hgroups : g.grid.GroupsInside axis)
    (hsingle : ∀ e ∈ g.grid.components, ¬1 < (e.placement.along axis).span) :
    (∀ (m m' : Measures) (pass : Pass), m.metrics = m'.metrics →
      (∀ e ∈ g.grid.components, m.preferred e.id axis ≤ m'.preferred e.id axis ∧
        m.minimum e.id axis ≤ m'.minimum e.id axis) →
      ∃ sizes sizes', (g.answer (.groupedSizes m pass axis)).1 = .ok sizes ∧
        (g.answer (.groupedSizes m' pass axis)).1 = .ok sizes' ∧
        List.Forall₂ (· ≤ ·) sizes sizes') ∧
    ∀ m : Measures,
      (∀ e ∈ g.grid.components, m.minimum e.id axis ≤ m.preferred e.id axis) →
      ∃ sizes sizes', (g.answer (.groupedSizes m .minimum axis)).1 = .ok sizes ∧
        (g.answer (.groupedSizes m .preferred axis)).1 = .ok sizes' ∧
        List.Forall₂ (· ≤ ·) sizes sizes' := by
  have hcheck : g.grid.check = .ok () := (h.answer_eq_scan .validate).symm.trans hvalid
  have hspanning := spanning_eq_nil hcheck hsingle
  -- both parts compare two passes, by two measures or by one
  have hle {m m' : Measures} {pass pass' : Pass} (hmetrics : m.metrics = m'.metrics)
      (hclaims : ∀ e ∈ g.grid.components,
        g.grid.claim m pass axis e ≤ g.grid.claim m' pass' axis e) :
      ∃ sizes sizes', (g.answer (.groupedSizes m pass axis)).1 = .ok sizes ∧
        (g.answer (.groupedSizes m' pass' axis)).1 = .ok sizes' ∧
        List.Forall₂ (· ≤ ·) sizes sizes' := by
    refine ⟨_, _, h.groupedSizes_eq_ok hvalid hgroups m pass,
      h.groupedSizes_eq_ok hvalid hgroups m' pass', forall₂_le_of_getD_le ?_ ?_⟩
    · rw [length_equalizedSizes m pass hgroups, length_equalizedSizes m' pass' hgroups]
    · exact equalizedSizes_le hspanning hgroups hmetrics hclaims
  refine ⟨fun m m' pass hmetrics hless => hle hmetrics fun e he => ?_, fun m hordered =>
    hle rfl fun e he => ?_⟩
  · obtain ⟨hpreferred, hminimum⟩ := hless e he
    refine g.grid.claim_le_claim axis hmetrics hminimum ?_
    cases pass with
    | preferred => exact hpreferred
    | minimum => exact hminimum
  · exact g.grid.claim_le_claim axis rfl le_rfl (hordered e he)

/-! Three columns with a component in each of the outer ones, one of which is measured by a track of
its own, and two groups that overlap in the middle column. -/

def chained : CachedGrid :=
  let shrinking : Track :=
    ⟨.center, .minimum, .pixels 5, 0, isNegative_pixels 5, Nat.zero_le _⟩
  let ops : List Operation :=
    [.addGroup .horizontal (pair 1), .addGroup .horizontal (pair 0),
      .add ⟨7⟩ ⟨.single 0, .single 0⟩, .add ⟨9⟩ ⟨⟨2, 1, some 0, some shrinking⟩, .single 0⟩]
  ops.foldl CachedGrid.after (.ofGrid
    ⟨⟨⟨List.replicate 3 .defaultColumn, []⟩, ⟨[.defaultRow], []⟩⟩, [], true⟩)

theorem reachable_chained : chained.Reachable := by
  have hgrid : Grid.ofDimensions 3 1 =
      .ok ⟨⟨⟨List.replicate 3 .defaultColumn, []⟩, ⟨[.defaultRow], []⟩⟩, [], true⟩ := rfl
  exact (Reachable.ofDimensions hgrid).foldl _

/-- Its columns are larger by larger multiples, and by the preferred sizes if these are the larger
ones. -/
theorem groupedSizes_chained :
    (chained.answer .validate).1 = .ok () ∧ chained.grid.GroupsInside .horizontal ∧
      (∀ e ∈ chained.grid.components, ¬1 < (e.placement.along .horizontal).span) ∧
      (∃ sizes sizes',
        (chained.answer (.groupedSizes (multiples 3 1) .preferred .horizontal)).1 = .ok sizes ∧
        (chained.answer (.groupedSizes (multiples 4 2) .preferred .horizontal)).1 = .ok sizes' ∧
        List.Forall₂ (· ≤ ·) sizes sizes') ∧
      ∃ sizes sizes',
        (chained.answer (.groupedSizes (multiples 3 1) .minimum .horizontal)).1 = .ok sizes ∧
        (chained.answer (.groupedSizes (multiples 3 1) .preferred .horizontal)).1 = .ok sizes' ∧
        List.Forall₂ (· ≤ ·) sizes sizes' := by
  have hvalid : (chained.answer .validate).1 = .ok () := by decide +kernel
  have hgroups : chained.grid.GroupsInside .horizontal := by
    unfold GroupsInside GroupsFit
    decide +kernel
  have hsingle : ∀ e ∈ chained.grid.components, ¬1 < (e.placement.along .horizontal).span := by
    decide +kernel
  obtain ⟨hmeasures, hpasses⟩ := groupedSizes_monotone reachable_chained hvalid hgroups hsingle
  refine ⟨hvalid, hgroups, hsingle,
    hmeasures (multiples 3 1) (multiples 4 2) .preferred rfl fun e _ => ?_,
    hpasses (multiples 3 1) fun e _ => ?_⟩
  · simp only [multiples]
    omega
  · simp only [multiples]
    omega

end CachedGrid

end GridLayout

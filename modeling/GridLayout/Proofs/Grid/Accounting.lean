import GridLayout.Proofs.Grid.Arrangement
import GridLayout.Proofs.Grid.History

/-!
# Accounting for the space of a container

The sizes in a container start from the preferred sizes, or from the minimum ones if the preferred
ones do not fit and the grid may shrink. What is left of the container goes to the tracks with a
weight, to the last pixel. All of this is so as long as 32 bits hold the sizes and the totals.

* `Grid.Accounts`: how the sizes relate to those they start from and to the container.
* `Grid.sharedSizes_of_total_eq`: a container of exactly the preferred size adds nothing.
* `Grid.total_sharedSizes_le`: a container of at least the minimum size is never exceeded.
* `CachedGrid.accounts_of_validate`: all of it for what a reachable grid answers.
-/

namespace GridLayout

/-- The sizes make use of the space of a container from the base sizes on. -/
structure Grid.Accounts (g : Grid) (m : Measures) (axis : Axis) (container : Int)
    (base sizes : List Int) : Prop where
  length_eq : sizes.length = g.count axis
  base_le : ∀ i, base.getD i 0 ≤ sizes.getD i 0
  minimum_le : ∀ (i : Nat) (track : Track), (g.tracks axis)[i]? = some track →
    track.minimum.toPixels m.metrics axis ≤ sizes.getD i 0
  isWeighted : ∀ i, sizes.getD i 0 ≠ base.getD i 0 → IsWeighted (g.tracks axis) i
  total_of_weighted : (∃ i, IsWeighted (g.tracks axis) i) → total sizes = max (total base) container
  total_of_not : ¬(∃ i, IsWeighted (g.tracks axis) i) → total sizes = total base

theorem Size.along_ofPerAxis_ofFun (f : Axis → Int) (axis : Axis) :
    (Size.ofPerAxis (.ofFun f)).along axis = f axis := by
  cases axis <;> rfl

namespace Grid

variable {g : Grid} (m : Measures) {axis : Axis}

/-! ## One axis -/

theorem accounts_sharedSizes (hgroups : g.GroupsInside axis) {container : Int}
    (hfit : g.SizingFits m axis container) :
    g.Accounts m axis container (g.equalizedSizes m (g.fittingPass m axis container) axis)
      (g.sharedSizes m axis container) := by
  have hgrown := hfit.grownAt
  have htotal := total_sharedSizes hgroups hfit
  rw [weightSum_eq_sum] at htotal
  constructor
  · exact length_sharedSizes hgroups container
  · exact hgrown.le
  · intro i track htrack
    exact (minimum_le_equalizedSizes hgroups hfit.pass htrack).trans (hgrown.le i)
  · intro i hne
    exact by_contra fun hnot => hne (hgrown.eq i hnot)
  · intro hweighted
    rwa [if_pos (sum_weight_pos_iff.2 hweighted)] at htotal
  · intro hnone
    rwa [if_neg (mt sum_weight_pos_iff.1 hnone)] at htotal

/-- In a container of exactly the preferred size the tracks have their preferred sizes. -/
theorem sharedSizes_of_total_eq {container : Int}
    (htotal : Representable (total (g.equalizedSizes m .preferred axis)))
    (h : total (g.equalizedSizes m .preferred axis) = container) :
    g.sharedSizes m axis container = g.equalizedSizes m .preferred axis := by
  have hpass : g.fittingPass m axis container = .preferred :=
    if_pos (.inr (by rw [wrap_eq_self htotal, h]))
  rw [sharedSizes, hpass, shareOut_eq_self (.inl (by omega))]

/-- A container of at least the minimum size is not exceeded. -/
theorem total_sharedSizes_le (hgroups : g.GroupsInside axis) {container : Int}
    (hfit : g.SizingFits m axis container)
    (h : total (g.equalizedSizes m (if g.canShrink then .minimum else .preferred) axis) ≤
      container) : total (g.sharedSizes m axis container) ≤ container := by
  have hbase : total (g.equalizedSizes m (g.fittingPass m axis container) axis) ≤ container := by
    by_cases hroom : total (g.equalizedSizes m .preferred axis) ≤ container
    · have hpass : g.fittingPass m axis container = .preferred :=
        if_pos (hfit.keepsPreferred_iff.2 (.inr hroom))
      rwa [hpass]
    · -- without room for the preferred sizes, those reported as minimum are laid out
      cases hshrink : g.canShrink with
      | false => exact absurd (by simpa [hshrink] using h) hroom
      | true =>
        have hpass : g.fittingPass m axis container = .minimum :=
          if_neg (by simp [hfit.keepsPreferred_iff, hshrink, hroom])
        rw [hpass]
        simpa [hshrink] using h
  rw [total_sharedSizes hgroups hfit]
  split
  · exact max_le hbase le_rfl
  · exact hbase

/-! ## The whole grid -/

/-- The size of all tracks together in a pass, if there are sizes with groups. -/
theorem scanTotalSize_eq_ok (hcheck : g.check = .ok ()) (hgroups : ∀ axis, g.GroupsInside axis)
    (pass : Pass) :
    g.scanTotalSize m pass = .ok (.ofPerAxis (.ofFun fun axis =>
      wrap (total (g.equalizedSizes m pass axis)))) := by
  have hgrouped (axis : Axis) := (g.scanGroupedSizes_eq_ok_iff m pass axis).2
    ⟨hcheck, hgroups axis, rfl⟩
  simp only [scanTotalSize, hgrouped]
  rfl

/-- There is a size of all tracks together exactly if there are sizes with groups along both
axes. -/
theorem scanTotalSize_eq_ok_iff {pass : Pass} {s : Size} :
    g.scanTotalSize m pass = .ok s ↔
      g.check = .ok () ∧ (∀ axis, g.GroupsInside axis) ∧
        s = .ofPerAxis (.ofFun fun axis => wrap (total (g.equalizedSizes m pass axis))) := by
  constructor
  · intro hsize
    obtain ⟨columns, hcolumns, hrest⟩ := bind_eq_ok_iff.1 hsize
    obtain ⟨rows, hrows, -⟩ := bind_eq_ok_iff.1 hrest
    obtain ⟨hcheck, hhorizontal, -⟩ := (g.scanGroupedSizes_eq_ok_iff m pass .horizontal).1 hcolumns
    obtain ⟨-, hvertical, -⟩ := (g.scanGroupedSizes_eq_ok_iff m pass .vertical).1 hrows
    have hgroups (axis : Axis) : g.GroupsInside axis := by
      cases axis with
      | horizontal => exact hhorizontal
      | vertical => exact hvertical
    rw [scanTotalSize_eq_ok m hcheck hgroups] at hsize
    exact ⟨hcheck, hgroups, (Except.ok.inj hsize).symm⟩
  · rintro ⟨hcheck, hgroups, rfl⟩
    exact scanTotalSize_eq_ok m hcheck hgroups pass

end Grid

namespace CachedGrid

variable {g : CachedGrid}

/-- **Accounting for space**: in a reachable grid whose placements and groups fit, the sizes in
every container make use of its space from the preferred sizes on, or from the minimum ones if
those do not fit; a container of the preferred size gets the preferred sizes; and no container of
at least the minimum size is exceeded. Each holds if 32 bits hold what is added up for it. -/
theorem accounts_of_validate (h : g.Reachable) (hvalid : (g.answer .validate).1 = .ok ())
    (m : Measures) :
    (∀ axis, g.grid.GroupsInside axis → ∀ container, g.grid.SizingFits m axis container →
      ∃ preferred base sizes,
      (g.answer (.groupedSizes m .preferred axis)).1 = .ok preferred ∧
      (g.answer (.groupedSizes m
        (if g.grid.canShrink = false ∨ total preferred ≤ container then .preferred else .minimum)
        axis)).1 = .ok base ∧
      (g.answer (.sizesIn m axis container)).1 = .ok sizes ∧
      g.grid.Accounts m axis container base sizes) ∧
    ((∀ axis, g.grid.GroupsInside axis) →
      (∀ axis, Representable (total (g.grid.equalizedSizes m .preferred axis))) →
      ∀ insets : Insets, ∃ size a,
      (g.answer (.preferredSize m)).1 = .ok size ∧
      (g.answer (.arrange m insets
        ⟨wrap (size.width + insets.horizontal), wrap (size.height + insets.vertical)⟩)).1 = .ok a ∧
      ∀ axis, (g.answer (.groupedSizes m .preferred axis)).1 = .ok (a.sizes.along axis)) ∧
    ((∀ axis, g.grid.GroupsInside axis) → ∀ (insets : Insets) (container : Size), ∃ size a,
      (g.answer (.minimumSize m)).1 = .ok size ∧
      (g.answer (.arrange m insets container)).1 = .ok a ∧
      ∀ axis, g.grid.SizingFits m axis ((insets.shrink container).along axis) →
        Representable (total (g.grid.equalizedSizes m
          (if g.grid.canShrink then .minimum else .preferred) axis)) →
        size.along axis ≤ (insets.shrink container).along axis →
        total (a.sizes.along axis) ≤ (insets.shrink container).along axis) := by
  have hcheck : g.grid.check = .ok () := (h.answer_eq_scan .validate).symm.trans hvalid
  simp only [h.answer_eq_scan]
  have hgrouped (pass : Pass) {axis : Axis} (hgroups : g.grid.GroupsInside axis) :
      (Query.groupedSizes m pass axis).scan g.grid = .ok (g.grid.equalizedSizes m pass axis) :=
    (g.grid.scanGroupedSizes_eq_ok_iff m pass axis).2 ⟨hcheck, hgroups, rfl⟩
  refine ⟨fun axis hgroups container hfit => ?_, fun hgroups htotal insets => ?_,
    fun hgroups insets container => ?_⟩
  · refine ⟨_, g.grid.equalizedSizes m (g.grid.fittingPass m axis container) axis, _,
      hgrouped .preferred hgroups, ?_, g.grid.scanSizesIn_eq_ok m hcheck hgroups container,
      Grid.accounts_sharedSizes m hgroups hfit⟩
    rw [Grid.fittingPass, if_congr hfit.keepsPreferred_iff rfl rfl]
    exact hgrouped _ hgroups
  · refine ⟨_, _, Grid.scanTotalSize_eq_ok m hcheck hgroups .preferred,
      Grid.scanArrange_eq_ok hcheck hgroups _ _, fun axis => ?_⟩
    rw [hgrouped .preferred (hgroups axis), Grid.sizes_arranged,
      Grid.sharedSizes_of_total_eq m (htotal axis)]
    cases axis <;> simp [Insets.shrink, Size.along, Size.ofPerAxis, PerAxis.ofFun,
      wrap_eq_self (htotal _)]
  · refine ⟨_, _, Grid.scanTotalSize_eq_ok m hcheck hgroups _,
      Grid.scanArrange_eq_ok hcheck hgroups _ _, fun axis hfit htotal hle => ?_⟩
    rw [Size.along_ofPerAxis_ofFun, wrap_eq_self htotal] at hle
    rw [Grid.sizes_arranged]
    exact Grid.total_sharedSizes_le m (hgroups axis) hfit hle

/-- The edited grid shrinks in a container of 100 pixels, and its first column takes the rest. -/
theorem accounts_edited :
    let m := multiples 40 1
    let g := edited [] []
    g.Reachable ∧ (g.answer .validate).1 = .ok () ∧ g.grid.GroupsInside .horizontal ∧
      g.grid.Accounts m .horizontal 100 [1, 1, 20] [79, 1, 20] := by
  intro m g
  have hg : g.Reachable := reachable_edited [] []
  have hvalid : (g.answer .validate).1 = .ok () := by decide +kernel
  have hgroups : g.grid.GroupsInside .horizontal := by
    unfold Grid.GroupsInside GroupsFit
    decide +kernel
  have hpreferred : (g.answer (.groupedSizes m .preferred .horizontal)).1 = .ok [60, 60, 20] := by
    decide +kernel
  have hminimum : (g.answer (.groupedSizes m .minimum .horizontal)).1 = .ok [1, 1, 20] := by
    decide +kernel
  have hsizes : (g.answer (.sizesIn m .horizontal 100)).1 = .ok [79, 1, 20] := by decide +kernel
  have hfit : g.grid.SizingFits m .horizontal 100 := by decide +kernel
  obtain ⟨preferred, base, sizes, hpreferred', hbase, hsizes', haccounts⟩ :=
    (accounts_of_validate hg hvalid m).1 .horizontal hgroups 100 hfit
  obtain rfl := Except.ok.inj (hpreferred.symm.trans hpreferred')
  obtain rfl := Except.ok.inj (hsizes.symm.trans hsizes')
  rw [if_neg (by decide +kernel)] at hbase
  obtain rfl := Except.ok.inj (hminimum.symm.trans hbase)
  exact ⟨hg, hvalid, hgroups, haccounts⟩

/-- The narrow column leaves more space than 32 bits hold, so the column that takes it is cut and
gets smaller than its component. Where three columns together are wider than 32 bits hold, their
total is cut, and they exceed a container that is larger than what is reported as minimum size. -/
theorem not_accounts_leaning_and_crowded :
    (let m : Measures := ⟨negativeFont, fun _ _ => 10, fun _ _ => 10⟩
      let base : List Int := [-2147483648, 10]
      let sizes : List Int := [-2147483648, -1]
      leaning.Reachable ∧ (leaning.answer .validate).1 = .ok () ∧
        leaning.grid.GroupsInside .horizontal ∧ leaning.grid.canShrink = false ∧
        (leaning.answer (.groupedSizes m .preferred .horizontal)).1 = .ok base ∧
        (leaning.answer (.sizesIn m .horizontal 2147483647)).1 = .ok sizes ∧
        ¬leaning.grid.Accounts m .horizontal 2147483647 base sizes) ∧
    (let m := wideMeasures
      let sizes : List Int := List.replicate 3 1500000000
      crowded.Reachable ∧ (crowded.answer .validate).1 = .ok () ∧
        (∀ axis, crowded.grid.GroupsInside axis) ∧
        (crowded.answer (.minimumSize m)).1 = .ok ⟨205032704, 10⟩ ∧
        (crowded.answer (.sizesIn m .horizontal 300000000)).1 = .ok sizes ∧
        300000000 < total sizes) := by
  constructor
  · intro m base sizes
    have hgroups : leaning.grid.GroupsInside .horizontal := by
      unfold Grid.GroupsInside GroupsFit
      decide +kernel
    refine ⟨reachable_leaning, by decide +kernel, hgroups, by decide +kernel, by decide +kernel,
      by decide +kernel, fun haccounts => ?_⟩
    exact absurd (haccounts.base_le 1) (by decide)
  · intro m sizes
    refine ⟨reachable_crowded, by decide +kernel, fun axis => ?_, by decide +kernel,
      by decide +kernel, by decide⟩
    unfold Grid.GroupsInside GroupsFit
    cases axis <;> decide +kernel

end CachedGrid

end GridLayout

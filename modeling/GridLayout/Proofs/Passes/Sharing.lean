import GridLayout.Proofs.Grid.History
import GridLayout.Proofs.Passes.Probe
import GridLayout.Proofs.Sizing.Sources

/-!
# When groups share their sizes

The groups of an axis are applied one after another, so a later group may enlarge some members of an
earlier one and leave the others behind. Whether that can happen depends on the groups alone: the
members of every group have one size, in all grids with these groups and for all measures, exactly
if they have the same sources (`CachedGrid.shares_iff_sameSources`). For groups that are disjoint or
nested they have.
-/

namespace GridLayout

namespace Grid

variable {axis : Axis} {count : Nat} {groups : List TrackGroup}

/-- The measures of a probe without slots whose tracks are nothing except for one. -/
def singleMeasures (axis : Axis) (k : Nat) : Measures :=
  probeMeasures axis 0 (fun _ => 0) fun _ i => if i = k then 1 else 0

/-- In such a probe one track is large. -/
theorem getD_scanCellSizes_single {k : Nat} (hk : k < count) (pass : Pass) (i : Nat) :
    ((probe axis count [] groups).scanCellSizes (singleMeasures axis k) pass axis).getD i 0 =
      if i = k then 1 else 0 := by
  have hspans : SpansInside [] count := by simp [SpansInside]
  have hnone : (probe axis count [] groups).spanning axis = [] := spanning_probe hspans
  have hnonneg : ∀ i, (0 : Int) ≤ if i = k then 1 else 0 := by
    intro i
    split <;> decide
  have hbase : ((probe axis count [] groups).scanBaseSizes (singleMeasures axis k) pass axis).getD
      i 0 = if i < count then if i = k then 1 else 0 else 0 :=
    getD_scanBaseSizes_probe hspans pass hnonneg i
  rw [scanCellSizes, hnone, List.foldl_nil, hbase]
  split
  · rfl
  · rw [if_neg (by omega)]

end Grid

namespace CachedGrid

open Grid

/-- A reachable grid without faults has sizes with groups. -/
theorem Reachable.groupedSizes_eq_ok {g : CachedGrid} (h : g.Reachable)
    (hvalid : (g.answer .validate).1 = .ok ()) {axis : Axis} (hgroups : g.grid.GroupsInside axis)
    (m : Measures) (pass : Pass) :
    (g.answer (.groupedSizes m pass axis)).1 = .ok (g.grid.equalizedSizes m pass axis) := by
  have hcheck : g.grid.check = .ok () := (h.answer_eq_scan .validate).symm.trans hvalid
  rw [h.answer_eq_scan]
  exact (g.grid.scanGroupedSizes_eq_ok_iff m pass axis).2 ⟨hcheck, hgroups, rfl⟩

/-- **Shared sizes**: in either pass and along either axis, all grids with the given groups,
whatever else is in them and whatever the components measure, have one size for the members of each
group exactly if these have the same sources; as they have if the groups are disjoint or nested. -/
theorem shares_iff_sameSources (axis : Axis) (pass : Pass) {count : Nat} {groups : List TrackGroup}
    (hfit : GroupsFit groups count) :
    ((∀ g : CachedGrid, g.Reachable → g.grid.count axis = count → g.grid.groups axis = groups →
        (g.answer .validate).1 = .ok () → ∀ m : Measures, ∃ sizes,
          (g.answer (.groupedSizes m pass axis)).1 = .ok sizes ∧
            ∀ group ∈ groups, group.Shares sizes) ↔ SameSources groups) ∧
      (groups.Pairwise TrackGroup.Laminar → SameSources groups) := by
  refine ⟨⟨?_, ?_⟩, sameSources_of_laminar hfit⟩
  · intro hall
    by_contra hnot
    obtain ⟨k, hk, hsingle⟩ := exists_source_of_not_sameSources hfit hnot
    -- the probe with a single large track is one of the grids
    obtain ⟨g, h, hgrid⟩ := exists_reachable (g := probe axis count [] groups)
      (tracks_probe_ne_nil (Nat.zero_lt_of_lt hk)) nodup_components_probe
    have hvalid : (g.answer .validate).1 = .ok () := by
      rw [h.answer_eq_scan, hgrid]
      exact check_probe (by simp [SpansInside])
    have hgroups : g.grid.GroupsInside axis := hgrid ▸ groupsInside_probe hfit axis
    obtain ⟨sizes, hsizes, hshares⟩ := hall g h (hgrid ▸ count_probe) (hgrid ▸ groups_probe) hvalid
      (singleMeasures axis k)
    rw [h.groupedSizes_eq_ok hvalid hgroups] at hsizes
    obtain rfl := Except.ok.inj hsizes
    obtain ⟨group, hgroup, hdiffer⟩ := hsingle
      ((probe axis count [] groups).scanCellSizes (singleMeasures axis k) pass axis) (by simp)
      (getD_scanCellSizes_single hk pass)
    apply hdiffer
    have hequal := hshares group hgroup
    rwa [hgrid, equalizedSizes, groups_probe] at hequal
  · intro hsame g h hcount hgroups hvalid m
    have hinside : g.grid.GroupsInside axis := by
      unfold GroupsInside
      rwa [hcount, hgroups]
    refine ⟨_, h.groupedSizes_eq_ok hvalid hinside m pass, ?_⟩
    rw [equalizedSizes, hgroups]
    apply shares_of_sameSources _ hsame
    rwa [length_scanCellSizes, hcount]

/-! Three tracks, of which the first two and the last two overlap in the middle one. -/

theorem ascending_pair (i : Nat) : [i, i + 1].Pairwise (· < ·) := by simp

/-- A track and the next one. -/
def pair (i : Nat) : TrackGroup := ⟨[i, i + 1], Nat.le_refl 2, ascending_pair i⟩

def allThree : TrackGroup := ⟨[0, 1, 2], by decide, by decide⟩

/-- With a group of all three between them the pairs share their sizes, although they are not
nested. -/
theorem shares_pairs_around_allThree :
    GroupsFit [pair 0, allThree, pair 1] 3 ∧
      ∀ g : CachedGrid, g.Reachable → g.grid.count .vertical = 3 →
        g.grid.groups .vertical = [pair 0, allThree, pair 1] →
        (g.answer .validate).1 = .ok () → ∀ m : Measures, ∃ sizes,
          (g.answer (.groupedSizes m .minimum .vertical)).1 = .ok sizes ∧
            ∀ group ∈ [pair 0, allThree, pair 1], group.Shares sizes := by
  have hfit : GroupsFit [pair 0, allThree, pair 1] 3 := by
    unfold GroupsFit
    decide
  exact ⟨hfit, (shares_iff_sameSources .vertical .minimum hfit).1.2 (by decide)⟩

theorem isNegative_pixels (n : Nat) : (Length.pixels n).value.isNegative = false := by
  have hnonneg : decide ((n : Int) < 0) = false := decide_eq_false (by omega)
  unfold Length.pixels Binary64.ofInt
  rw [hnonneg]
  exact Binary64.isNegative_ofRatio _ _

/-- A column of so many pixels. -/
def fixedColumn (n : Nat) : Track :=
  ⟨.fill, .fixed, .pixels n, 0, isNegative_pixels n, Nat.zero_le _⟩

def fixedColumns : List Track := [fixedColumn 10, fixedColumn 20, fixedColumn 30]

/-- The columns with the two pairs, one after the other. -/
def overlapping : CachedGrid :=
  let ops : List Operation := [.addGroup .horizontal (pair 0), .addGroup .horizontal (pair 1)]
  ops.foldl CachedGrid.after (.ofGrid ⟨⟨⟨fixedColumns, []⟩, ⟨[.defaultRow], []⟩⟩, [], true⟩)

theorem reachable_overlapping : overlapping.Reachable := by
  have hgrid : Grid.ofTracks fixedColumns [.defaultRow] =
      .ok ⟨⟨⟨fixedColumns, []⟩, ⟨[.defaultRow], []⟩⟩, [], true⟩ := rfl
  exact (Reachable.ofTracks hgrid).foldl _

/-- In either pass the second pair takes its middle column away from the first. -/
theorem not_shares_overlapping :
    overlapping.Reachable ∧ overlapping.grid.groups .horizontal = [pair 0, pair 1] ∧
      overlapping.grid.GroupsInside .horizontal ∧
      (∀ pass, (overlapping.answer (.groupedSizes (multiples 1 1) pass .horizontal)).1 =
        .ok [20, 30, 30]) ∧ ¬(pair 0).Shares [20, 30, 30] := by
  refine ⟨reachable_overlapping, rfl, ?_, ?_, ?_⟩
  · unfold GroupsInside GroupsFit
    decide +kernel
  · intro pass
    cases pass <;> decide +kernel
  · unfold TrackGroup.Shares
    decide

end CachedGrid

end GridLayout

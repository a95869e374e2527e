import GridLayout.Proofs.Grid.Arrangement
import GridLayout.Proofs.Grid.History

/-!
# The order of registration

The components of a grid are sized and placed in the order of their registration. For components of
a single track the order is of no use, since a size is the maximum of their claims. For those of
several tracks it is where they overlap: the first one makes room for itself, and the next one finds
it there. Components that lie apart along an axis enlarge different tracks, and by amounts that
depend on these tracks alone, so their turns can be exchanged.

* `Grid.accommodate_comm`: two components that lie apart are accommodated in either order.
* `Grid.Reordered.scanCellSizes_eq`: so the sizes of a grid do not depend on the order.
* `CachedGrid.answer_of_reordered`: two reachable grids that differ in the order alone have the same
  sizes along the axis, and the same place along it for every component.
-/

namespace GridLayout

open Finset

/-- The second grid has the components of the first in some other order, and all else alike. -/
structure Grid.Reordered (g g' : Grid) : Prop where
  lanes : g'.lanes = g.lanes
  canShrink : g'.canShrink = g.canShrink
  components : g'.components.Perm g.components

/-- The entries have no track in common. -/
def Entry.ApartAlong (axis : Axis) (e e' : Entry) : Prop := Disjoint (e.cells axis) (e'.cells axis)

instance (axis : Axis) : Std.Symm (Entry.ApartAlong axis) := ⟨fun _ _ h => Disjoint.symm h⟩

/-- The components of several tracks lie apart from each other. -/
def Grid.SpansApart (g : Grid) (axis : Axis) : Prop :=
  (g.spanning axis).Pairwise (Entry.ApartAlong axis)

namespace Grid

variable {g g' : Grid} (m : Measures) (pass : Pass) {axis : Axis}

/-! ## Exchanging two turns -/

/-- A track outside a component is the same whether another component has its turn before or
after. -/
theorem getD_accommodate_comm {e e' : Entry} (h : e.ApartAlong axis e') (sizes : List Int) {i : Nat}
    (hi : i ∉ e'.cells axis) :
    (g.accommodate m pass axis (g.accommodate m pass axis sizes e') e).getD i 0 =
      (g.accommodate m pass axis (g.accommodate m pass axis sizes e) e').getD i 0 := by
  have hkeep (sizes : List Int) {j : Nat} (hj : j ∉ e'.cells axis) :
      (g.accommodate m pass axis sizes e').getD j 0 = sizes.getD j 0 :=
    (g.changedAt_accommodate m pass axis sizes e').eq j fun helastic =>
      hj (Slot.lt_of_mem_elastic helastic).2
  rw [hkeep (g.accommodate m pass axis sizes e) hi]
  refine g.getD_accommodate_congr m pass axis (g.changedAt_accommodate m pass axis sizes e').length_eq
    (fun j hj => ?_) (hkeep sizes hi)
  exact hkeep sizes (disjoint_left.1 h hj)

/-- Two components that lie apart are accommodated in either order. -/
theorem accommodate_comm {e e' : Entry} (h : e.ApartAlong axis e') (sizes : List Int) :
    g.accommodate m pass axis (g.accommodate m pass axis sizes e) e' =
      g.accommodate m pass axis (g.accommodate m pass axis sizes e') e := by
  have hlen (sizes : List Int) (e : Entry) :
      (g.accommodate m pass axis sizes e).length = sizes.length :=
    (g.changedAt_accommodate m pass axis sizes e).length_eq
  refine eq_of_getD_eq (by simp only [hlen]) fun i => ?_
  by_cases hi : i ∈ e'.cells axis
  · have hsymm : e'.ApartAlong axis e := symm_of (Entry.ApartAlong axis) h
    exact getD_accommodate_comm m pass hsymm sizes (disjoint_right.1 h hi)
  · exact (getD_accommodate_comm m pass h sizes hi).symm

/-- Components that lie apart are accommodated in every order. -/
theorem foldl_accommodate_perm {entries entries' : List Entry} (hperm : entries'.Perm entries)
    (hapart : entries.Pairwise (Entry.ApartAlong axis)) (sizes : List Int) :
    entries'.foldl (g.accommodate m pass axis) sizes =
      entries.foldl (g.accommodate m pass axis) sizes := by
  refine (hperm.symm.foldl_eq' (fun e he e' he' sizes => ?_) sizes).symm
  by_cases heq : e = e'
  · rw [heq]
  · exact accommodate_comm m pass (hapart.forall he he' heq) sizes

/-- The base size is a maximum over the components of the track, in whatever order. -/
theorem baseSize_congr {track : Track} {entries entries' : List Entry}
    (h : ∀ e, e ∈ entries' ↔ e ∈ entries) :
    g.baseSize m pass axis track entries' = g.baseSize m pass axis track entries := by
  refine eq_of_forall_ge_iff fun size => ?_
  simp only [baseSize_le_iff, h]

/-! ## Reordered grids -/

namespace Reordered

variable (h : Reordered g g')

include h

theorem symm : Reordered g' g := ⟨h.lanes.symm, h.canShrink.symm, h.components.symm⟩

theorem mem_components {e : Entry} : e ∈ g'.components ↔ e ∈ g.components := h.components.mem_iff

theorem tracks_eq (axis : Axis) : g'.tracks axis = g.tracks axis := by simp only [tracks, h.lanes]

theorem groups_eq (axis : Axis) : g'.groups axis = g.groups axis := by simp only [groups, h.lanes]

theorem count_eq (axis : Axis) : g'.count axis = g.count axis := by simp only [count, h.tracks_eq]

theorem governing_eq (slot : Slot) (axis : Axis) :
    g'.governing slot axis = g.governing slot axis := by
  simp only [governing, h.tracks_eq]

theorem claim_eq (axis : Axis) (e : Entry) : g'.claim m pass axis e = g.claim m pass axis e := by
  simp only [claim, h.governing_eq]

theorem accommodate_eq (axis : Axis) : g'.accommodate m pass axis = g.accommodate m pass axis := by
  funext sizes e
  simp only [accommodate, h.tracks_eq, h.claim_eq]

theorem interval_eq (axis : Axis) (e : Entry) (sizes positions : List Int) :
    g'.interval m axis e sizes positions = g.interval m axis e sizes positions := by
  simp only [interval, h.governing_eq, h.claim_eq]

/-! ### Faults -/

theorem check_of_check (hcheck : g.check = .ok ()) : g'.check = .ok () := by
  obtain ⟨hfits, hcorners⟩ := check_eq_ok_iff.1 hcheck
  refine check_eq_ok_iff.2 ⟨fun e he => ?_, ?_⟩
  · have hfit := hfits e (h.mem_components.1 he)
    refine ⟨hfit.span_pos, fun axis => ?_, fun axis target htarget => ?_⟩
    · exact (hfit.stop_le axis).trans_eq (h.count_eq axis).symm
    · exact (hfit.target_lt axis target htarget).trans_eq (h.count_eq axis).symm
  · exact (h.components.pairwise_iff fun hne => hne.symm).2 hcorners

/-- A grid has a fault in every order or in none. -/
theorem check_eq_ok_iff : g'.check = .ok () ↔ g.check = .ok () :=
  ⟨h.symm.check_of_check, h.check_of_check⟩

theorem groupsInside_iff (axis : Axis) : g'.GroupsInside axis ↔ g.GroupsInside axis := by
  simp only [GroupsInside, h.groups_eq, h.count_eq]

/-! ### Sizes -/

theorem scanBaseSizes_eq (axis : Axis) :
    g'.scanBaseSizes m pass axis = g.scanBaseSizes m pass axis := by
  unfold scanBaseSizes
  rw [h.tracks_eq]
  refine List.map_congr_left fun (track, i) _ => ?_
  have hbase (entries : List Entry) :
      g'.baseSize m pass axis track entries = g.baseSize m pass axis track entries := by
    simp only [baseSize, h.claim_eq]
  simp only [hbase]
  exact baseSize_congr m pass fun e => (h.components.filter _).mem_iff

/-- The sizes do not depend on the order if components of several tracks lie apart. -/
theorem scanCellSizes_eq (hapart : g.SpansApart axis) :
    g'.scanCellSizes m pass axis = g.scanCellSizes m pass axis := by
  unfold scanCellSizes
  rw [h.scanBaseSizes_eq, h.accommodate_eq]
  exact foldl_accommodate_perm m pass (h.components.filter _) hapart _

theorem equalizedSizes_eq (hapart : g.SpansApart axis) :
    g'.equalizedSizes m pass axis = g.equalizedSizes m pass axis := by
  rw [equalizedSizes, equalizedSizes, h.groups_eq, h.scanCellSizes_eq m pass hapart]

theorem sharedSizes_eq (hapart : g.SpansApart axis) (container : Int) :
    g'.sharedSizes m axis container = g.sharedSizes m axis container := by
  have hpass : g'.fittingPass m axis container = g.fittingPass m axis container := by
    refine if_congr ?_ rfl rfl
    simp only [KeepsPreferred, h.canShrink, h.equalizedSizes_eq m _ hapart]
  rw [sharedSizes, sharedSizes, hpass, h.equalizedSizes_eq m _ hapart, h.tracks_eq, weightSum,
    weightSum, h.tracks_eq]

/-! ### Rectangles -/

/-- In layouts of the two grids each component has one place along the axis. -/
theorem intervals_eq (hapart : g.SpansApart axis) (hids : (g.components.map Entry.id).Nodup)
    {insets : Insets} {container : Size} {id : ComponentId} {r r' : Rect}
    (hr : (id, r) ∈ (g.arranged m insets container).bounds)
    (hr' : (id, r') ∈ (g'.arranged m insets container).bounds) :
    r'.intervals.along axis = r.intervals.along axis := by
  obtain ⟨e, he, heq⟩ := List.mem_map.1 hr
  obtain ⟨e', he', heq'⟩ := List.mem_map.1 hr'
  -- both rectangles are those of one entry
  have hid : e'.id = e.id := (congrArg Prod.fst heq').trans (congrArg Prod.fst heq).symm
  obtain rfl := List.inj_on_of_nodup_map hids (h.mem_components.1 he') he hid
  have hinterval := congrArg (fun p : ComponentId × Rect => p.2.intervals.along axis) heq
  have hinterval' := congrArg (fun p : ComponentId × Rect => p.2.intervals.along axis) heq'
  rw [intervals_placed] at hinterval hinterval'
  rw [← hinterval, ← hinterval', h.interval_eq]
  simp only [PerAxis.along_ofFun, h.sharedSizes_eq m hapart]

theorem ids_perm (insets : Insets) (container : Size) :
    ((g'.arranged m insets container).bounds.map Prod.fst).Perm
      ((g.arranged m insets container).bounds.map Prod.fst) := by
  have hids (g : Grid) :
      (g.arranged m insets container).bounds.map Prod.fst = g.components.map Entry.id := by
    simp [arranged, placed, Function.comp_def]
  rw [hids, hids]
  exact h.components.map _

end Reordered

end Grid

namespace CachedGrid

open Grid

/-- **The order of registration**: of two reachable grids that differ only in the order in which
the same components are registered, and whose components of several tracks lie apart along an axis,
both or neither have sizes and layouts. The sizes along the axis are the same, for all measures and
in every container, and every component has the same position and extent along it. -/
theorem answer_of_reordered {g g' : CachedGrid} (hg : g.Reachable) (hg' : g'.Reachable)
    (h : g.grid.Reordered g'.grid) (hids : (g.grid.components.map Entry.id).Nodup) {axis : Axis}
    (hapart : g.grid.SpansApart axis) (m : Measures) :
    (∀ container sizes, (g'.answer (.sizesIn m axis container)).1 = .ok sizes ↔
      (g.answer (.sizesIn m axis container)).1 = .ok sizes) ∧
    ∀ insets container,
      ((∃ a', (g'.answer (.arrange m insets container)).1 = .ok a') ↔
        ∃ a, (g.answer (.arrange m insets container)).1 = .ok a) ∧
      ∀ a a', (g.answer (.arrange m insets container)).1 = .ok a →
        (g'.answer (.arrange m insets container)).1 = .ok a' →
        a'.sizes.along axis = a.sizes.along axis ∧
        a'.positions.along axis = a.positions.along axis ∧
        (a'.bounds.map Prod.fst).Perm (a.bounds.map Prod.fst) ∧
        ∀ id r r', (id, r) ∈ a.bounds → (id, r') ∈ a'.bounds →
          r'.intervals.along axis = r.intervals.along axis := by
  simp only [hg.answer_eq_scan, hg'.answer_eq_scan, Query.scan]
  refine ⟨fun container sizes => ?_, fun insets container => ⟨?_, fun a a' ha ha' => ?_⟩⟩
  · rw [scanSizesIn_eq_ok_iff, scanSizesIn_eq_ok_iff, h.check_eq_ok_iff, h.groupsInside_iff,
      h.sharedSizes_eq m hapart]
  · simp only [scanArrange_eq_ok_iff, exists_and_left, exists_eq, and_true, h.check_eq_ok_iff,
      h.groupsInside_iff]
  · obtain ⟨-, -, rfl⟩ := scanArrange_eq_ok_iff.1 ha
    obtain ⟨-, -, rfl⟩ := scanArrange_eq_ok_iff.1 ha'
    rw [sizes_arranged, sizes_arranged, positions_arranged, positions_arranged,
      h.sharedSizes_eq m hapart]
    exact ⟨rfl, rfl, h.ids_perm m insets container, fun id r r' hr hr' =>
      h.intervals_eq m hapart hids hr hr'⟩

/-! Four columns whose components are registered one after the other. -/

def registered (entries : List Entry) : CachedGrid :=
  let ops : List Operation := entries.map fun e => .add e.id e.placement
  ops.foldl CachedGrid.after (.ofGrid
    ⟨⟨⟨List.replicate 4 .defaultColumn, []⟩, ⟨List.replicate 3 .defaultRow, []⟩⟩, [], true⟩)

theorem reachable_registered (entries : List Entry) : (registered entries).Reachable := by
  have hgrid : Grid.ofDimensions 4 3 = .ok ⟨⟨⟨List.replicate 4 .defaultColumn, []⟩,
      ⟨List.replicate 3 .defaultRow, []⟩⟩, [], true⟩ := rfl
  exact (Reachable.ofDimensions hgrid).foldl _

/-- A component of the row with its number, from one column to another. -/
def wide (row start span : Nat) : Entry := ⟨⟨row⟩, ⟨start, span, none, none⟩, .single row⟩

/-- Two components of two columns each lie apart, so they get their places in either order. -/
theorem answer_registered_apart :
    let entries := [wide 0 0 2, wide 1 2 2, wide 2 1 1]
    let g := registered entries
    let g' := registered entries.reverse
    let q : Query := .arrange (multiples 40 10) ⟨0, 0, 0, 0⟩ ⟨200, 50⟩
    g.Reachable ∧ g'.Reachable ∧ g.grid.Reordered g'.grid ∧
      (g.grid.components.map Entry.id).Nodup ∧ g.grid.SpansApart .horizontal ∧
      (∃ a, (g.answer q).1 = .ok a) ∧
      ∀ a a', (g.answer q).1 = .ok a → (g'.answer q).1 = .ok a' →
        a'.sizes.along .horizontal = a.sizes.along .horizontal := by
  intro entries g g' q
  have hreordered : g.grid.Reordered g'.grid := ⟨rfl, rfl, by decide +kernel⟩
  have hids : (g.grid.components.map Entry.id).Nodup := by decide +kernel
  have hapart : g.grid.SpansApart .horizontal := by
    unfold SpansApart Entry.ApartAlong
    decide +kernel
  have hg : g.Reachable := reachable_registered _
  have hg' : g'.Reachable := reachable_registered _
  obtain ⟨-, hlayouts⟩ := answer_of_reordered hg hg' hreordered hids hapart (multiples 40 10)
  refine ⟨hg, hg', hreordered, hids, hapart, ?_, fun a a' ha ha' => ?_⟩
  · have hsome : (g.answer q).1.toOption.isSome := by decide +kernel
    match hanswer : (g.answer q).1 with
    | .ok a => exact ⟨a, rfl⟩
    | .error fault => simp [hanswer, Except.toOption] at hsome
  · exact ((hlayouts ⟨0, 0, 0, 0⟩ ⟨200, 50⟩).2 a a' ha ha').1

/-- Where they overlap the order decides. -/
example :
    let m : Measures := ⟨Screen.default.metrics, fun _ _ => 10, fun _ _ => 10⟩
    let q : Query := .groupedSizes m .preferred .horizontal
    ((registered [wide 0 0 2, wide 1 1 2]).answer q).1 = .ok [5, 8, 2, 0] ∧
      ((registered [wide 1 1 2, wide 0 0 2]).answer q).1 = .ok [3, 7, 5, 0] := by
  decide +kernel

end CachedGrid

end GridLayout

import Mathlib.Data.List.Pairwise
import GridLayout.Border.Basic
import GridLayout.Proofs.Sizing.Extent

/-!
# Placements in a border layout

The components are placed one after another, the one in the centre last. Each gives way to the edges
that are taken before it and reaches over those that are not. So no two components share a cell, and
a cell that several of them could reach is left to the first of these.

* `BorderProperties.order`: the order of the placements.
* `BorderProperties.pairwise_apart_entries`: no two components share a cell.
* `BorderRegion.Contends`: a component there covers the cell unless an edge before it does.
* `BorderProperties.covers_of_first`: the first contender covers the cell.
-/

namespace GridLayout

theorem Axis.eq_or_eq_other (axis axis' : Axis) : axis' = axis ∨ axis' = axis.other := by
  cases axis <;> cases axis' <;> decide

/-! ## Edges -/

namespace BorderRegion

/-- The edge at which the tracks of an axis start. -/
def leading : Axis → BorderRegion
  | .horizontal => .west
  | .vertical => .north

/-- The edge at which the tracks of an axis end. -/
def trailing : Axis → BorderRegion
  | .horizontal => .east
  | .vertical => .south

/-- The edges that lie across an axis. -/
def edges (axis : Axis) : List BorderRegion := [leading axis, trailing axis]

/-- The index of the column or the row that an edge lies in. -/
def trackIndex : BorderRegion → Nat
  | .north | .west => 1
  | .center => 3
  | .south | .east => 5

theorem leading_mem_edges (axis : Axis) : leading axis ∈ edges axis := by simp [edges]

theorem trailing_mem_edges (axis : Axis) : trailing axis ∈ edges axis := by simp [edges]

theorem exists_mem_edges {x : BorderRegion} (h : x ≠ .center) : ∃ axis, x ∈ edges axis := by
  cases x with
  | west | east => exact ⟨.horizontal, by decide⟩
  | north | south => exact ⟨.vertical, by decide⟩
  | center => exact absurd rfl h

theorem ne_center_of_mem_edges {x : BorderRegion} {axis : Axis} (h : x ∈ edges axis) :
    x ≠ .center := by
  rintro rfl
  cases axis <;> exact absurd h (by decide)

/-- An edge lies across one axis only. -/
theorem axis_eq_of_mem_edges {x : BorderRegion} {axis axis' : Axis} (h : x ∈ edges axis)
    (h' : x ∈ edges axis') : axis = axis' := by
  revert h h'
  cases x <;> cases axis <;> cases axis' <;> decide

theorem trackIndex_leading (axis : Axis) : (leading axis).trackIndex = 1 := by cases axis <;> rfl

theorem trackIndex_trailing (axis : Axis) : (trailing axis).trackIndex = 5 := by cases axis <;> rfl

/-- A component in the region reaches the cell if no edge before it does: from the centre any cell,
from an edge those in its column or row. -/
def Contends (cell : PerAxis Nat) (x : BorderRegion) : Prop :=
  x = .center ∨ ∃ axis, x ∈ edges axis ∧ x.trackIndex = cell.along axis

/-- The cell lies in a column and a row of regions. -/
def IsRegionCell (cell : PerAxis Nat) : Prop := ∀ axis, cell.along axis ∈ [1, 3, 5]

/-- The two edges meet in the cell, which is a corner. -/
def Meet (x y : BorderRegion) (cell : PerAxis Nat) : Prop :=
  ∃ axis, x ∈ edges axis ∧ y ∈ edges axis.other ∧
    x.trackIndex = cell.along axis ∧ y.trackIndex = cell.along axis.other

theorem trackIndex_mem (x : BorderRegion) : x.trackIndex ∈ [1, 3, 5] := by cases x <;> decide

/-- An edge is known by the axis that it lies across and its track. -/
theorem eq_of_trackIndex_eq {x y : BorderRegion} {axis : Axis} (hx : x ∈ edges axis)
    (hy : y ∈ edges axis) (h : x.trackIndex = y.trackIndex) : x = y := by
  revert hx hy h
  cases axis <;> cases x <;> cases y <;> decide

namespace Meet

variable {x y z : BorderRegion} {cell : PerAxis Nat}

theorem ne_center (h : Meet x y cell) : x ≠ .center ∧ y ≠ .center := by
  obtain ⟨axis, hx, hy, -⟩ := h
  exact ⟨ne_center_of_mem_edges hx, ne_center_of_mem_edges hy⟩

theorem isRegionCell (h : Meet x y cell) : IsRegionCell cell := by
  obtain ⟨axis, -, -, hindex, hindex'⟩ := h
  intro axis'
  rcases axis.eq_or_eq_other axis' with rfl | rfl
  · exact hindex ▸ x.trackIndex_mem
  · exact hindex' ▸ y.trackIndex_mem

theorem contends (h : Meet x y cell) : x.Contends cell := by
  obtain ⟨axis, hx, -, hindex, -⟩ := h
  exact .inr ⟨axis, hx, hindex⟩

/-- Apart from the centre only these two contend for the corner. -/
theorem eq_of_contends (h : Meet x y cell) (hz : z.Contends cell) :
    z = .center ∨ z = x ∨ z = y := by
  obtain ⟨axis, hx, hy, hindex, hindex'⟩ := h
  refine hz.imp_right fun ⟨axis', hz, hindexz⟩ => ?_
  rcases axis.eq_or_eq_other axis' with rfl | rfl
  · exact .inl (eq_of_trackIndex_eq hz hx (hindexz.trans hindex.symm))
  · exact .inr (eq_of_trackIndex_eq hz hy (hindexz.trans hindex'.symm))

end Meet

end BorderRegion

/-- A placement covers the cell in a column and a row. -/
def Placement.Covers (p : Placement) (cell : PerAxis Nat) : Prop :=
  ∀ axis, (p.along axis).Covers (cell.along axis)

/-- Two placements have no cell in common: along an axis one of them ends before the other. -/
def Placement.Apart (p q : Placement) : Prop :=
  ∃ axis, (p.along axis).stop ≤ (q.along axis).start ∨ (q.along axis).stop ≤ (p.along axis).start

instance : Std.Symm fun e e' : Entry => e.placement.Apart e'.placement :=
  ⟨fun _ _ h => h.imp fun _ => Or.symm⟩

theorem Placement.Apart.not_covers {p q : Placement} (h : p.Apart q) {cell : PerAxis Nat}
    (hp : p.Covers cell) : ¬q.Covers cell := by
  obtain ⟨axis, haxis⟩ := h
  intro hq
  have hp := hp axis
  have hq := hq axis
  unfold Slot.Covers at hp hq
  omega

namespace BorderProperties

open BorderRegion

/-! ## One placement -/

theorem covers_slotBetween_iff {first second : Bool} {i : Nat} :
    (slotBetween first second).Covers i ↔
      (if first then 3 else 1) ≤ i ∧ i < if second then 4 else 6 := by
  cases first <;> cases second <;> rfl

/-- An edge lies in its own track across an axis, and everything else between the two edges. -/
theorem along_placementIn (taken : List BorderRegion) (x : BorderRegion) (axis : Axis) :
    (placementIn taken x).along axis =
      if x ∈ edges axis then .single x.trackIndex
      else slotBetween (leading axis ∈ taken) (trailing axis ∈ taken) := by
  cases x <;> cases axis <;> rfl

/-- Only the edges among the regions taken before matter. -/
theorem placementIn_congr {taken taken' : List BorderRegion}
    (h : ∀ x, x ≠ .center → (x ∈ taken ↔ x ∈ taken')) (x : BorderRegion) :
    placementIn taken x = placementIn taken' x := by
  have hedge {axis : Axis} {x : BorderRegion} (hx : x ∈ edges axis) : x ∈ taken ↔ x ∈ taken' :=
    h x (ne_center_of_mem_edges hx)
  have halong (axis : Axis) :
      (placementIn taken x).along axis = (placementIn taken' x).along axis := by
    rw [along_placementIn, along_placementIn]
    simp only [hedge (leading_mem_edges axis), hedge (trailing_mem_edges axis)]
  exact congrArg₂ PerAxis.mk (halong .horizontal) (halong .vertical)

/-- A component has no cell in common with an edge before it. -/
theorem apart_placementIn {taken taken' : List BorderRegion} {x y : BorderRegion}
    (hx : x ≠ .center) (hxy : x ≠ y) (htaken : x ∈ taken') :
    Placement.Apart (placementIn taken x) (placementIn taken' y) := by
  obtain ⟨axis, hedge⟩ := exists_mem_edges hx
  refine ⟨axis, ?_⟩
  rw [along_placementIn, along_placementIn, if_pos hedge]
  have hsides : x = leading axis ∨ x = trailing axis := by simpa [edges] using hedge
  by_cases hy : y ∈ edges axis
  · have hsides' : y = leading axis ∨ y = trailing axis := by simpa [edges] using hy
    rw [if_pos hy]
    rcases hsides with rfl | rfl <;> rcases hsides' with rfl | rfl
    · exact absurd rfl hxy
    · simp [Slot.single, Slot.stop, trackIndex_leading, trackIndex_trailing]
    · simp [Slot.single, Slot.stop, trackIndex_leading, trackIndex_trailing]
    · exact absurd rfl hxy
  · rw [if_neg hy]
    rcases hsides with rfl | rfl
    · refine .inl ?_
      simp [Slot.single, Slot.stop, trackIndex_leading, slotBetween, htaken]
    · refine .inr ?_
      simp only [Slot.single, Slot.stop, trackIndex_trailing, slotBetween, htaken]
      by_cases hfirst : leading axis ∈ taken' <;> simp [hfirst]

/-- A contender covers the cell, unless an edge before it contends too. -/
theorem covers_placementIn {taken : List BorderRegion} {x : BorderRegion} {cell : PerAxis Nat}
    (hcell : IsRegionCell cell) (hx : x.Contends cell)
    (hfirst : ∀ y ∈ taken, y ≠ .center → ¬y.Contends cell) :
    Placement.Covers (placementIn taken x) cell := by
  intro axis
  rw [along_placementIn]
  split
  · next hedge =>
    rcases hx with rfl | ⟨axis', hedge', hindex⟩
    · exact absurd rfl (ne_center_of_mem_edges hedge)
    · obtain rfl := axis_eq_of_mem_edges hedge hedge'
      rw [hindex]
      exact ⟨le_rfl, Nat.lt_succ_self _⟩
  · have hnot {y : BorderRegion} (hy : y ∈ edges axis) (htaken : y ∈ taken) :
        y.trackIndex ≠ cell.along axis := fun hindex =>
      hfirst y htaken (ne_center_of_mem_edges hy) (.inr ⟨axis, hy, hindex⟩)
    have hleading := hnot (leading_mem_edges axis)
    have htrailing := hnot (trailing_mem_edges axis)
    rw [trackIndex_leading] at hleading
    rw [trackIndex_trailing] at htrailing
    have hindex : cell.along axis = 1 ∨ cell.along axis = 3 ∨ cell.along axis = 5 := by
      simpa using hcell axis
    rw [covers_slotBetween_iff]
    simp only [decide_eq_true_eq]
    constructor
    · split
      · next htaken =>
        have hne := hleading htaken
        omega
      · omega
    · split
      · next htaken =>
        have hne := htrailing htaken
        omega
      · omega

/-- A placement lies inside the margins, and its component is measured in the track that it starts
in or in the central one. -/
theorem along_placementIn_spec (taken : List BorderRegion) (x : BorderRegion) (axis : Axis) :
    let slot := (placementIn taken x).along axis
    1 ≤ slot.start ∧ slot.start < slot.stop ∧ slot.stop ≤ 6 ∧ slot.override = none ∧
      ∀ i ∈ slot.target, i = centerIndex := by
  simp only [along_placementIn]
  split
  · cases x <;> decide
  · cases decide (leading axis ∈ taken) <;> cases decide (trailing axis ∈ taken) <;> decide

/-! ## All placements -/

/-- The components at the edges. -/
def atEdges (p : BorderProperties) : List (ComponentId × BorderRegion) :=
  p.regions.filter fun entry => !(entry.2 == .center)

/-- The components in the centre, of which there is one at most. -/
def atCenter (p : BorderProperties) : List (ComponentId × BorderRegion) :=
  p.regions.filter fun entry => entry.2 == .center

/-- The components of a layout in the order in which they are placed. -/
def order (p : BorderProperties) : List (ComponentId × BorderRegion) := p.atEdges ++ p.atCenter

theorem ne_center_of_mem_atEdges {p : BorderProperties} {entry : ComponentId × BorderRegion}
    (h : entry ∈ p.atEdges) : entry.2 ≠ .center := by
  simpa using (List.mem_filter.1 h).2

theorem eq_center_of_mem_atCenter {p : BorderProperties} {entry : ComponentId × BorderRegion}
    (h : entry ∈ p.atCenter) : entry.2 = .center := by
  simpa using (List.mem_filter.1 h).2

theorem perm_order (p : BorderProperties) : p.order.Perm p.regions :=
  List.perm_append_comm.trans
    (List.filter_append_perm (fun entry : ComponentId × BorderRegion => entry.2 == .center) _)

/-- Components that are placed one after another. -/
def entriesAfter (taken : List BorderRegion) : List (ComponentId × BorderRegion) → List Entry
  | [] => []
  | (id, region) :: rest => ⟨id, placementIn taken region⟩ :: entriesAfter (region :: taken) rest

theorem edgeEntries_eq (taken : List BorderRegion) (regions : List (ComponentId × BorderRegion)) :
    edgeEntries taken regions =
      entriesAfter taken (regions.filter fun entry => !(entry.2 == .center)) := by
  induction regions generalizing taken with
  | nil => rfl
  | cons entry regions ih =>
    obtain ⟨id, region⟩ := entry
    cases region with
    | center => exact ih taken
    | north | south | west | east => exact congrArg (List.cons _) (ih _)

theorem entriesAfter_append (taken : List BorderRegion)
    (before after : List (ComponentId × BorderRegion)) :
    entriesAfter taken (before ++ after) =
      entriesAfter taken before ++ entriesAfter ((before.map Prod.snd).reverse ++ taken) after := by
  induction before generalizing taken with
  | nil => rfl
  | cons entry before ih => simp [entriesAfter, ih]

theorem length_atCenter_le {p : BorderProperties} (h : (p.regions.map Prod.snd).Nodup) :
    p.atCenter.length ≤ 1 := by
  have hcount := List.nodup_iff_count_le_one.1 h .center
  rwa [List.count, List.countP_map, List.countP_eq_length_filter] at hcount

/-- Where no region is taken twice, all components are placed one after another. -/
theorem entries_eq {p : BorderProperties} (h : (p.regions.map Prod.snd).Nodup) :
    p.entries = entriesAfter [] p.order := by
  have hcount := length_atCenter_le h
  have hcenter (entry : ComponentId × BorderRegion) (he : entry ∈ p.atCenter) :=
    eq_center_of_mem_atCenter he
  rw [entries, edgeEntries_eq, order, entriesAfter_append]
  refine congrArg _ ?_
  unfold centerEntries
  change (p.atCenter.getLast?.toList.map fun entry => _) = _
  generalize p.atCenter = centers at hcount hcenter ⊢
  match centers with
  | [] => rfl
  | [(id, region)] =>
    obtain rfl : region = .center := hcenter (id, region) (by simp)
    have htaken : placementIn (p.regions.map Prod.snd) .center =
        placementIn ((p.atEdges.map Prod.snd).reverse ++ []) .center := by
      refine placementIn_congr (fun x hx => ?_) .center
      simp [atEdges, hx]
    exact congrArg (fun placement => [Entry.mk id placement]) htaken

theorem map_id_entriesAfter (taken : List BorderRegion)
    (order : List (ComponentId × BorderRegion)) :
    (entriesAfter taken order).map Entry.id = order.map Prod.fst := by
  induction order generalizing taken with
  | nil => rfl
  | cons entry order ih => exact congrArg (List.cons entry.1) (ih _)

/-- Every component is placed after some regions. -/
theorem exists_of_mem_entriesAfter {taken : List BorderRegion}
    {order : List (ComponentId × BorderRegion)} {e : Entry} (he : e ∈ entriesAfter taken order) :
    ∃ taken' region, taken ⊆ taken' ∧ (e.id, region) ∈ order ∧
      e.placement = placementIn taken' region := by
  induction order generalizing taken with
  | nil => cases he
  | cons entry order ih =>
    rcases List.mem_cons.1 he with rfl | he
    · exact ⟨taken, entry.2, fun _ h => h, by simp, rfl⟩
    · obtain ⟨taken', region, htaken, hmem, hplacement⟩ := ih he
      exact ⟨taken', region, fun x hx => htaken (List.mem_cons_of_mem _ hx),
        List.mem_cons_of_mem _ hmem, hplacement⟩

/-- No two components share a cell, if the centre is placed last. -/
theorem pairwise_apart_entriesAfter {taken : List BorderRegion}
    {order : List (ComponentId × BorderRegion)}
    (h : order.Pairwise fun a b => a.2 ≠ .center ∧ a.2 ≠ b.2) :
    (entriesAfter taken order).Pairwise fun e e' => e.placement.Apart e'.placement := by
  induction order generalizing taken with
  | nil => exact .nil
  | cons entry order ih =>
    obtain ⟨hfirst, hrest⟩ := List.pairwise_cons.1 h
    refine List.pairwise_cons.2 ⟨fun e he => ?_, ih hrest⟩
    obtain ⟨taken', region, htaken, hmem, hplacement⟩ := exists_of_mem_entriesAfter he
    obtain ⟨hedge, hne⟩ := hfirst _ hmem
    rw [hplacement]
    exact apart_placementIn hedge hne (htaken (by simp))

theorem pairwise_order {p : BorderProperties} (h : (p.regions.map Prod.snd).Nodup) :
    p.order.Pairwise fun a b => a.2 ≠ .center ∧ a.2 ≠ b.2 := by
  have hdistinct : p.order.Pairwise fun a b => a.2 ≠ b.2 :=
    List.pairwise_map.1 ((p.perm_order.map Prod.snd).nodup_iff.2 h)
  rw [order, List.pairwise_append] at hdistinct ⊢
  obtain ⟨hedges, hcenters, hboth⟩ := hdistinct
  refine ⟨hedges.imp_of_mem fun ha _ hne => ⟨ne_center_of_mem_atEdges ha, hne⟩,
    hcenters.imp_of_mem fun ha hb hne => ?_,
    fun a ha b hb => ⟨ne_center_of_mem_atEdges ha, hboth a ha b hb⟩⟩
  exact absurd ((eq_center_of_mem_atCenter ha).trans (eq_center_of_mem_atCenter hb).symm) hne

/-! ## Who covers a cell -/

/-- The component covers the cell. -/
def Covers (p : BorderProperties) (id : ComponentId) (cell : PerAxis Nat) : Prop :=
  ∃ e ∈ p.entries, e.id = id ∧ e.placement.Covers cell

section

variable {p : BorderProperties} (h : (p.regions.map Prod.snd).Nodup)
include h

theorem map_id_entries : (p.entries.map Entry.id).Perm (p.regions.map Prod.fst) := by
  rw [entries_eq h, map_id_entriesAfter]
  exact p.perm_order.map Prod.fst

/-- **No two components share a cell.** -/
theorem pairwise_apart_entries :
    p.entries.Pairwise fun e e' => e.placement.Apart e'.placement := by
  rw [entries_eq h]
  exact pairwise_apart_entriesAfter (pairwise_order h)

/-- A cell belongs to one component at most. -/
theorem Covers.unique {id id' : ComponentId} {cell : PerAxis Nat} (hid : p.Covers id cell)
    (hid' : p.Covers id' cell) : id = id' := by
  obtain ⟨e, he, rfl, hcovers⟩ := hid
  obtain ⟨e', he', rfl, hcovers'⟩ := hid'
  by_contra hne
  have hdistinct : e ≠ e' := fun heq => hne (congrArg Entry.id heq)
  exact ((pairwise_apart_entries h).forall he he' hdistinct).not_covers hcovers hcovers'

/-- **The first contender covers the cell**: no edge placed before it contends for the cell. -/
theorem covers_of_first {before after : List (ComponentId × BorderRegion)} {id : ComponentId}
    {x : BorderRegion} {cell : PerAxis Nat} (horder : p.order = before ++ (id, x) :: after)
    (hcell : IsRegionCell cell) (hx : x.Contends cell)
    (hfirst : ∀ entry ∈ before, ¬entry.2.Contends cell) : p.Covers id cell := by
  refine ⟨⟨id, placementIn ((before.map Prod.snd).reverse ++ []) x⟩, ?_, rfl, ?_⟩
  · rw [entries_eq h, horder, entriesAfter_append]
    simp [entriesAfter]
  · refine covers_placementIn hcell hx fun y hy _ => ?_
    rw [List.append_nil, List.mem_reverse] at hy
    obtain ⟨entry, hentry, rfl⟩ := List.mem_map.1 hy
    exact hfirst entry hentry

/-- With a component in the centre, every cell in the columns and the rows of the regions belongs to
exactly one component. -/
theorem existsUnique_covers {cell : PerAxis Nat} (hcell : IsRegionCell cell)
    (hcenter : p.occupied .center = true) : ∃! id, p.Covers id cell := by
  classical
  have hcontender : ∃ entry ∈ p.order, entry.2.Contends cell := by
    obtain ⟨entry, hentry, hregion⟩ := List.any_eq_true.1 hcenter
    exact ⟨entry, p.perm_order.mem_iff.2 hentry, .inl (eq_of_beq hregion)⟩
  obtain ⟨⟨id, x⟩, hfind⟩ : ∃ entry, p.order.find? (fun entry => decide (entry.2.Contends cell)) =
      some entry :=
    Option.isSome_iff_exists.1 (List.find?_isSome.2 (by simpa using hcontender))
  obtain ⟨hx, before, after, horder, hfirst⟩ := List.find?_eq_some_iff_append.1 hfind
  have hcovers : p.Covers id cell := covers_of_first h horder hcell (by simpa using hx)
    fun entry hentry => by simpa using hfirst entry hentry
  exact ⟨id, hcovers, fun _ hid => Covers.unique h hid hcovers⟩

/-- Of two edges that meet in a corner the one registered earlier covers it. -/
theorem covers_of_meet {x y : BorderRegion} {id id' : ComponentId} {cell : PerAxis Nat}
    (hmeet : Meet x y cell) (hregistered : [(id, x), (id', y)].Sublist p.regions) :
    p.Covers id cell := by
  obtain ⟨hx, hy⟩ := hmeet.ne_center
  have hplaced : [(id, x), (id', y)].Sublist p.order := by
    have hedges := hregistered.filter fun entry => !(entry.2 == BorderRegion.center)
    rw [List.filter_eq_self.2 (by simp [hx, hy])] at hedges
    exact hedges.trans (List.sublist_append_left _ _)
  obtain ⟨head, tail, horder, hhead, htail⟩ := List.cons_sublist_iff.1 hplaced
  obtain ⟨before, between, rfl⟩ := List.append_of_mem hhead
  rw [List.append_assoc, List.cons_append] at horder
  refine covers_of_first h horder hmeet.isRegionCell hmeet.contends fun entry hentry hcontends => ?_
  -- nothing before the first edge is in its region, in that of the other edge or in the centre
  have hlater := (List.pairwise_append.1 (horder ▸ pairwise_order h)).2.2 entry hentry
  rcases hmeet.eq_of_contends hcontends with hcenter | hregion | hregion
  · exact (hlater (id, x) (by simp)).1 hcenter
  · exact (hlater (id, x) (by simp)).2 hregion
  · have hother : (id', y) ∈ tail := List.singleton_sublist.1 htail
    exact (hlater (id', y) (by simp [hother])).2 hregion

end

end BorderProperties

end GridLayout

import GridLayout.Proofs.Grid.Accounting
import GridLayout.Proofs.Grid.Contents

/-!
# The solver with the axes exchanged

Exchanging the axes turns columns into rows, widths into heights and left sides into top sides. The
solver commutes with it, step by step, as long as no length depends on the axis it lies along: only
dialog units do, by the font size and by their number in it.

* `Grid.swap`, `Measures.swap`, `Size.swap` and `Arrangement.swap` exchange the axes.
* `Grid.FontFree`: no length of a grid is in dialog units.
* `Grid.FontFree.scanTotalSize_swap_eq_ok_iff` and `Grid.FontFree.scanArrange_swap_eq_ok_iff`: there
  are sizes and layouts exactly if there are any with the axes exchanged, and so are these.
-/

namespace GridLayout

/-! ## Exchanging the axes -/

@[simp] theorem Axis.other_other (axis : Axis) : axis.other.other = axis := by cases axis <;> rfl

namespace PerAxis

variable {α : Type}

@[simp] theorem swap_swap (p : PerAxis α) : p.swap.swap = p := rfl

theorem swap_ofFun (f : Axis → α) : (ofFun f).swap = ofFun fun axis => f axis.other := rfl

end PerAxis

/-- The size with its extents exchanged. -/
def Size.swap (s : Size) : Size := ⟨s.height, s.width⟩

@[simp] theorem Size.along_swap (s : Size) (axis : Axis) :
    s.swap.along axis = s.along axis.other := by
  cases axis <;> rfl

/-- The rectangle on the other side of the diagonal. -/
def Rect.swap (r : Rect) : Rect := ⟨r.y, r.x, r.height, r.width⟩

@[simp] theorem Rect.swap_swap (r : Rect) : r.swap.swap = r := rfl

theorem Rect.swap_ofIntervals (p : PerAxis (Int × Int)) :
    (ofIntervals p).swap = ofIntervals p.swap := rfl

theorem Insets.leading_swap (insets : Insets) (axis : Axis) :
    insets.swap.leading axis = insets.leading axis.other := by
  cases axis <;> rfl

theorem Insets.shrink_swap (insets : Insets) (s : Size) :
    insets.swap.shrink s.swap = (insets.shrink s).swap := rfl

/-- The same measures taken along the other axis. -/
def Measures.swap (m : Measures) : Measures :=
  ⟨⟨m.metrics.resolution, fun axis => m.metrics.fontSize axis.other⟩,
    fun id axis => m.preferred id axis.other, fun id axis => m.minimum id axis.other⟩

@[simp] theorem Measures.extent_swap (m : Measures) (pass : Pass) (id : ComponentId) (axis : Axis) :
    m.swap.extent pass id axis = m.extent pass id axis.other := by
  cases pass <;> rfl

/-- The component with its slots exchanged. -/
def Entry.swap (e : Entry) : Entry := ⟨e.id, e.placement.swap⟩

@[simp] theorem Entry.swap_swap (e : Entry) : e.swap.swap = e := rfl

@[simp] theorem Entry.id_swap (e : Entry) : e.swap.id = e.id := rfl

@[simp] theorem Entry.along_placement_swap (e : Entry) (axis : Axis) :
    e.swap.placement.along axis = e.placement.along axis.other :=
  PerAxis.along_swap _ _

theorem Entry.isAlone_swap (e : Entry) (axis : Axis) (index : Nat) :
    e.swap.isAlone axis index = e.isAlone axis.other index := by
  simp only [isAlone, along_placement_swap]

theorem Entry.isSpanning_swap (e : Entry) (axis : Axis) :
    e.swap.isSpanning axis = e.isSpanning axis.other := by
  simp only [isSpanning, along_placement_swap]

/-- The rectangles of components, each on the other side of the diagonal. -/
def swapBounds (bounds : List (ComponentId × Rect)) : List (ComponentId × Rect) :=
  bounds.map fun (id, r) => (id, r.swap)

/-- The arrangement with its columns as rows. -/
def Arrangement.swap (a : Arrangement) : Arrangement :=
  ⟨a.sizes.swap, a.positions.swap, swapBounds a.bounds⟩

@[simp] theorem Arrangement.swap_swap (a : Arrangement) : a.swap.swap = a := by
  simp [swap, swapBounds, Function.comp_def]

namespace Grid

/-- The grid with its columns as rows. -/
def swap (g : Grid) : Grid := ⟨g.lanes.swap, g.components.map Entry.swap, g.canShrink⟩

variable (g : Grid) (axis : Axis)

@[simp] theorem swap_swap : g.swap.swap = g := by
  simp [swap, Function.comp_def]

@[simp] theorem components_swap : g.swap.components = g.components.map Entry.swap := rfl

@[simp] theorem canShrink_swap : g.swap.canShrink = g.canShrink := rfl

@[simp] theorem tracks_swap : g.swap.tracks axis = g.tracks axis.other := by
  simp [tracks, swap]

@[simp] theorem groups_swap : g.swap.groups axis = g.groups axis.other := by
  simp [groups, swap]

@[simp] theorem count_swap : g.swap.count axis = g.count axis.other := by
  simp [count]

@[simp] theorem weightSum_swap : g.swap.weightSum axis = g.weightSum axis.other := by
  simp [weightSum]

/-- No length depends on the size of a font. -/
def FontFree : Prop := ∀ l ∈ g.lengths, l.unit ≠ .dialog

end Grid

/-- Other units than dialog units depend on the resolution alone. -/
theorem Length.toPixels_swap {l : Length} (h : l.unit ≠ .dialog) (m : Measures) (axis : Axis) :
    l.toPixels m.swap.metrics axis = l.toPixels m.metrics axis.other := by
  obtain ⟨value, unit⟩ := l
  cases unit with
  | dialog => exact absurd rfl h
  | pixel | inch | centimetre => rfl

/-! ## Faults -/

/-- A placement fits into a grid as it does with the axes of both exchanged. -/
theorem Entry.Fits.swap {g : Grid} {e : Entry} (h : e.Fits g) : e.swap.Fits g.swap where
  span_pos axis := by simpa using h.span_pos axis.other
  stop_le axis := by simpa using h.stop_le axis.other
  target_lt axis := by simpa using h.target_lt axis.other

theorem Entry.corner_swap (e : Entry) :
    e.swap.placement.corner = e.placement.corner.swap := rfl

namespace Grid

variable {g : Grid}

theorem check_swap_of_check (h : g.check = .ok ()) : g.swap.check = .ok () := by
  obtain ⟨hfits, hcorners⟩ := check_eq_ok_iff.1 h
  refine check_eq_ok_iff.2 ⟨?_, ?_⟩
  · intro _ hswapped
    obtain ⟨e, he, rfl⟩ := List.mem_map.1 hswapped
    exact (hfits e he).swap
  · rw [components_swap, List.pairwise_map]
    refine hcorners.imp fun hne heq => hne ?_
    rwa [Entry.corner_swap, Entry.corner_swap, Prod.swap_inj] at heq

/-- Exchanging the axes neither adds nor removes all faults. -/
theorem check_swap_eq_ok_iff : g.swap.check = .ok () ↔ g.check = .ok () := by
  refine ⟨fun h => ?_, check_swap_of_check⟩
  simpa using check_swap_of_check h

theorem groupsInside_swap_iff {axis : Axis} :
    g.swap.GroupsInside axis ↔ g.GroupsInside axis.other := by
  simp [GroupsInside]

theorem forall_groupsInside_swap_iff :
    (∀ axis, g.swap.GroupsInside axis) ↔ ∀ axis, g.GroupsInside axis := by
  simp only [groupsInside_swap_iff]
  refine ⟨fun h axis => ?_, fun h axis => h axis.other⟩
  simpa using h axis.other

/-! ## Claims -/

/-- The track that governs a component is its own one, one of the grid or the usual one. -/
theorem governing_cases (g : Grid) (slot : Slot) (axis : Axis) :
    slot.override = some (g.governing slot axis) ∨ g.governing slot axis ∈ g.tracks axis ∨
      g.governing slot axis = .defaultColumn := by
  unfold governing
  rcases slot.override with _ | own
  · rcases htarget : (g.tracks axis)[slot.target.getD slot.start]? with _ | track
    · rcases hstart : (g.tracks axis)[slot.start]? with _ | track
      · exact .inr (.inr (by simp [htarget, hstart]))
      · exact .inr (.inl (by simpa [htarget, hstart] using List.mem_of_getElem? hstart))
    · exact .inr (.inl (by simpa [htarget] using List.mem_of_getElem? htarget))
  · exact .inl (by simp)

theorem governing_swap (slot : Slot) (axis : Axis) :
    g.swap.governing slot axis = g.governing slot axis.other := by
  simp [governing]

namespace FontFree

theorem tracks (h : g.FontFree) {axis : Axis} {track : Track} (htrack : track ∈ g.tracks axis) :
    track.minimum.unit ≠ .dialog :=
  (forall_mem_lengths.1 h).1 axis track htrack

theorem governing (h : g.FontFree) {e : Entry} (he : e ∈ g.components) (axis : Axis) :
    (g.governing (e.placement.along axis) axis).minimum.unit ≠ .dialog := by
  rcases g.governing_cases (e.placement.along axis) axis with hown | hgrid | husual
  · have hentry := Entry.forall_mem_lengths.1 ((forall_mem_lengths.1 h).2 e he) axis
    exact Slot.forall_mem_lengths.1 hentry _ hown
  · exact h.tracks hgrid
  · rw [husual]
    decide

variable (h : g.FontFree) (m : Measures) (pass : Pass) (axis : Axis)

include h

theorem claim_swap {e : Entry} (he : e ∈ g.components) :
    g.swap.claim m.swap pass axis e.swap = g.claim m pass axis.other e := by
  simp only [claim, Entry.along_placement_swap, governing_swap, Entry.id_swap,
    Measures.extent_swap, Length.toPixels_swap (h.governing he axis.other)]
  rfl

/-! ## Sizes -/

theorem baseSize_swap {track : Track} (htrack : track ∈ g.tracks axis.other) {entries : List Entry}
    (hentries : ∀ e ∈ entries, e ∈ g.components) :
    g.swap.baseSize m.swap pass axis track (entries.map Entry.swap) =
      g.baseSize m pass axis.other track entries := by
  simp only [baseSize, List.foldl_map, Length.toPixels_swap (h.tracks htrack)]
  refine List.foldl_ext _ _ _ fun size e he => ?_
  rw [h.claim_swap m pass axis (hentries e he)]

theorem scanBaseSizes_swap :
    g.swap.scanBaseSizes m.swap pass axis = g.scanBaseSizes m pass axis.other := by
  unfold scanBaseSizes
  rw [tracks_swap]
  refine List.map_congr_left fun ⟨track, i⟩ hi => ?_
  have halone : g.swap.aloneIn axis i = (g.aloneIn axis.other i).map Entry.swap := by
    simp only [aloneIn, components_swap, List.filter_map, Function.comp_def, Entry.isAlone_swap]
  simp only [halone]
  exact h.baseSize_swap m pass axis (List.fst_mem_of_mem_zipIdx hi) fun e he =>
    (List.mem_filter.1 he).1

theorem accommodate_swap {e : Entry} (he : e ∈ g.components) (sizes : List Int) :
    g.swap.accommodate m.swap pass axis sizes e.swap =
      g.accommodate m pass axis.other sizes e := by
  simp only [accommodate, h.claim_swap m pass axis he, Entry.along_placement_swap, tracks_swap]

theorem scanCellSizes_swap :
    g.swap.scanCellSizes m.swap pass axis = g.scanCellSizes m pass axis.other := by
  have hspanning : g.swap.spanning axis = (g.spanning axis.other).map Entry.swap := by
    simp only [spanning, components_swap, List.filter_map, Function.comp_def,
      Entry.isSpanning_swap]
  unfold scanCellSizes
  rw [h.scanBaseSizes_swap, hspanning, List.foldl_map]
  exact List.foldl_ext _ _ _ fun sizes e he =>
    h.accommodate_swap m pass axis (List.mem_filter.1 he).1 sizes

theorem equalizedSizes_swap :
    g.swap.equalizedSizes m.swap pass axis = g.equalizedSizes m pass axis.other := by
  rw [equalizedSizes, groups_swap, h.scanCellSizes_swap, equalizedSizes]

theorem sharedSizes_swap (container : Int) :
    g.swap.sharedSizes m.swap axis container = g.sharedSizes m axis.other container := by
  have hkeeps : g.swap.KeepsPreferred m.swap axis container ↔
      g.KeepsPreferred m axis.other container := by
    simp only [KeepsPreferred, canShrink_swap, h.equalizedSizes_swap]
  have hpass : g.swap.fittingPass m.swap axis container = g.fittingPass m axis.other container := by
    simp only [fittingPass, hkeeps]
  simp only [sharedSizes, hpass, h.equalizedSizes_swap, tracks_swap, weightSum_swap]

/-! ## Layouts -/

theorem interval_swap {e : Entry} (he : e ∈ g.components) (sizes positions : List Int) :
    g.swap.interval m.swap axis e.swap sizes positions =
      g.interval m axis.other e sizes positions := by
  simp only [interval, Entry.along_placement_swap, governing_swap,
    h.claim_swap m .preferred axis he]

theorem placed_swap {e : Entry} (he : e ∈ g.components) (sizes positions : PerAxis (List Int)) :
    g.swap.placed m.swap sizes.swap positions.swap e.swap =
      (e.id, (g.placed m sizes positions e).2.swap) := by
  simp only [placed, h.interval_swap m _ he, PerAxis.along_swap, Entry.id_swap,
    Rect.swap_ofIntervals, PerAxis.swap_ofFun]

theorem arranged_swap (insets : Insets) (container : Size) :
    g.swap.arranged m.swap insets.swap container.swap = (g.arranged m insets container).swap := by
  have hsizes : (g.swap.arranged m.swap insets.swap container.swap).sizes =
      (g.arranged m insets container).sizes.swap := by
    simp only [arranged, h.sharedSizes_swap, Insets.shrink_swap, Size.along_swap,
      PerAxis.swap_ofFun]
  have hpositions : (g.swap.arranged m.swap insets.swap container.swap).positions =
      (g.arranged m insets container).positions.swap := by
    simp only [arranged, h.sharedSizes_swap, Insets.shrink_swap, Size.along_swap,
      PerAxis.swap_ofFun, PerAxis.along_ofFun, Insets.leading_swap]
  have hbounds : (g.swap.arranged m.swap insets.swap container.swap).bounds =
      swapBounds (g.arranged m insets container).bounds := by
    change (g.swap.components.map (g.swap.placed m.swap
      (g.swap.arranged m.swap insets.swap container.swap).sizes
      (g.swap.arranged m.swap insets.swap container.swap).positions)) = _
    rw [hsizes, hpositions, components_swap, List.map_map]
    simp only [arranged, swapBounds, List.map_map]
    exact List.map_congr_left fun e he => h.placed_swap m he _ _
  rw [Arrangement.swap, ← hsizes, ← hpositions, ← hbounds]

/-! ## Whole computations -/

/-- There is a size of all tracks exactly if there is one with the axes exchanged, and its extents
are exchanged. -/
theorem scanTotalSize_swap_eq_ok_iff {s : Size} :
    g.swap.scanTotalSize m.swap pass = .ok s.swap ↔ g.scanTotalSize m pass = .ok s := by
  rw [scanTotalSize_eq_ok_iff, scanTotalSize_eq_ok_iff, check_swap_eq_ok_iff,
    forall_groupsInside_swap_iff]
  simp only [h.equalizedSizes_swap]
  refine and_congr_right fun _ => and_congr_right fun _ => ?_
  exact ⟨fun heq => congrArg Size.swap heq, fun heq => congrArg Size.swap heq⟩

/-- There is a layout exactly if there is one with the axes exchanged, and so are the layouts. -/
theorem scanArrange_swap_eq_ok_iff {insets : Insets} {container : Size} {a : Arrangement} :
    g.swap.scanArrange m.swap insets.swap container.swap = .ok a.swap ↔
      g.scanArrange m insets container = .ok a := by
  rw [scanArrange_eq_ok_iff, scanArrange_eq_ok_iff, check_swap_eq_ok_iff,
    forall_groupsInside_swap_iff, h.arranged_swap]
  refine and_congr_right fun _ => and_congr_right fun _ => ?_
  exact ⟨fun heq => by simpa using congrArg Arrangement.swap heq, congrArg Arrangement.swap⟩

end FontFree

end Grid

end GridLayout

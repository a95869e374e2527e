import GridLayout.Proofs.Axes.Solver
import GridLayout.Proofs.Grid.Safety
import GridLayout.Proofs.Persist.Readable

/-!
# Histories with the axes exchanged

Whatever is done to a grid can be done to the grid with its axes exchanged, so a history has one
that leads to the exchanged grid. Both grids then have sizes and layouts together, and these are
exchanged as well.

* `CachedGrid.Reachable.exists_swap`: the history on the other side.
* `CachedGrid.mirrors_of_reachable`: the sizes and the layouts of a grid without dialog units.
-/

namespace GridLayout

/-! ## Platforms -/

def ComponentSizes.swap (s : ComponentSizes) : ComponentSizes := ⟨s.preferred.swap, s.minimum.swap⟩

namespace Platform

/-- The platform with all sizes and rectangles exchanged. -/
def swap (p : Platform) : Platform :=
  ⟨p.screen, p.sizes.map fun (id, s) => (id, s.swap), swapBounds p.bounds⟩

variable {α β : Type}

theorem get?_map (f : α → β) (id : ComponentId) (table : List (ComponentId × α)) :
    get? id (table.map fun (id, a) => (id, f a)) = (get? id table).map f := by
  simp [get?, List.find?_map, Function.comp_def]

theorem put_map (f : α → β) (id : ComponentId) (a : α) (table : List (ComponentId × α)) :
    put id (f a) (table.map fun (id, a) => (id, f a)) =
      (put id a table).map fun (id, a) => (id, f a) := by
  induction table with
  | nil => rfl
  | cons entry table ih =>
    obtain ⟨other, b⟩ := entry
    by_cases h : other = id
    · simp [put, h]
    · simp [put, h, ih]

theorem extent_swap (p : Platform) (pass : Pass) (id : ComponentId) (axis : Axis) :
    p.swap.extent pass id axis = p.extent pass id axis.other := by
  have hsizes : p.swap.sizes? id = (p.sizes? id).map ComponentSizes.swap :=
    get?_map ComponentSizes.swap id p.sizes
  simp only [extent, hsizes]
  cases p.sizes? id <;> cases pass <;> cases axis <;> rfl

theorem measures_swap (p : Platform) : p.swap.measures = p.measures.swap := by
  simp only [measures, Measures.swap]
  congr 1
  · funext id axis
    exact p.extent_swap .preferred id axis
  · funext id axis
    exact p.extent_swap .minimum id axis

theorem setAllBounds_swap (p : Platform) (bounds : List (ComponentId × Rect)) :
    p.swap.setAllBounds (swapBounds bounds) = (p.setAllBounds bounds).swap := by
  induction bounds generalizing p with
  | nil => rfl
  | cons entry bounds ih =>
    have hfirst : p.swap.setBounds entry.1 entry.2.swap = (p.setBounds entry.1 entry.2).swap := by
      simp only [setBounds, swap, swapBounds, put_map Rect.swap]
    have hrest := ih (p.setBounds entry.1 entry.2)
    rw [← hfirst] at hrest
    exact hrest

end Platform

/-! ## Operations -/

theorem PerAxis.swap_modify {α : Type} (p : PerAxis α) (axis : Axis) (f : α → α) :
    (p.modify axis f).swap = p.swap.modify axis.other f := by
  cases axis <;> rfl

namespace Grid

theorem setTrack_swap (g : Grid) (axis : Axis) (index : Nat) (track : Track) :
    g.swap.setTrack axis.other index track = (g.setTrack axis index track).map swap := by
  simp only [setTrack, count_swap, Axis.other_other]
  split
  · simp only [Except.map, swap, PerAxis.swap_modify]
  · rfl

theorem addGroup_swap (g : Grid) (axis : Axis) (group : TrackGroup) :
    g.swap.addGroup axis.other group = (g.addGroup axis group).swap := by
  simp only [addGroup, swap, PerAxis.swap_modify]

theorem register_swap (entry : Entry) (entries : List Entry) :
    register entry.swap (entries.map Entry.swap) = (register entry entries).map Entry.swap := by
  induction entries with
  | nil => rfl
  | cons e entries ih =>
    by_cases h : e.id = entry.id
    · simp [register, h]
    · simp [register, h, ih]

theorem add_swap (g : Grid) (id : ComponentId) (placement : Placement) :
    g.swap.add id placement.swap = (g.add id placement).swap := by
  have hregister := register_swap ⟨id, placement⟩ g.components
  simp only [add, swap, ← hregister]
  rfl

theorem contains_swap (g : Grid) (id : ComponentId) : g.swap.contains id = g.contains id := by
  simp [contains, List.any_map, Function.comp_def]

theorem remove_swap (g : Grid) (id : ComponentId) : g.swap.remove id = (g.remove id).swap := by
  simp [remove, swap, List.filter_map, Function.comp_def]

/-- A grid can be read if it can with the axes exchanged. -/
theorem readable_swap {g : Grid} (h : Persisted.Readable g) : Persisted.Readable g.swap := by
  obtain ⟨haxes, hcomponents⟩ := Persisted.readable_grid_iff.1 h
  refine Persisted.readable_grid_iff.2 ⟨fun axis => ?_, ?_⟩
  · rw [tracks_swap, groups_swap]
    exact haxes axis.other
  · rw [components_swap, Persisted.readable_list_iff]
    intro _ hswapped
    obtain ⟨e, he, rfl⟩ := List.mem_map.1 hswapped
    obtain ⟨hid, hslots⟩ :=
      Persisted.readable_entry_iff.1 (Persisted.readable_list_iff.1 hcomponents e he)
    refine Persisted.readable_entry_iff.2 ⟨hid, fun axis => ?_⟩
    rw [Entry.along_placement_swap]
    exact hslots axis.other

end Grid

namespace CachedGrid

/-- An operation can be done along the other axis. -/
theorem exists_after_swap {g g' : CachedGrid} (hg' : g'.Reachable) (hgrid : g'.grid = g.grid.swap)
    (op : Operation) : ∃ g'' : CachedGrid, g''.Reachable ∧ g''.grid = (g.after op).grid.swap := by
  cases op with
  | setTrack axis index track =>
    refine ⟨_, hg'.after (.setTrack axis.other index track), ?_⟩
    have hset : g'.grid.setTrack axis.other index track =
        (g.grid.setTrack axis index track).map Grid.swap := by
      rw [hgrid, Grid.setTrack_swap]
    simp only [after, setTrack, hset]
    rcases g.grid.setTrack axis index track with fault | grid
    · exact hgrid
    · rfl
  | addGroup axis group =>
    refine ⟨_, hg'.after (.addGroup axis.other group), ?_⟩
    simp only [after, addGroup, hgrid, Grid.addGroup_swap]
  | setCanShrink canShrink =>
    refine ⟨_, hg'.after (.setCanShrink canShrink), ?_⟩
    simp only [after, setCanShrink, hgrid]
    rfl
  | add id placement =>
    refine ⟨_, hg'.after (.add id placement.swap), ?_⟩
    simp only [after, add, hgrid, Grid.add_swap]
  | remove id =>
    refine ⟨_, hg'.after (.remove id), ?_⟩
    simp only [after, remove, hgrid, Grid.contains_swap]
    split
    · simp only [Grid.remove_swap]
    · exact hgrid
  | clear =>
    refine ⟨_, hg'.after .clear, ?_⟩
    simp only [after, clear, hgrid]
    rfl
  | flush | copy | ask => exact ⟨g', hg', hgrid⟩

theorem exists_ofTracks_swap {columns rows : List Track} {g : Grid}
    (h : Grid.ofTracks columns rows = .ok g) :
    ∃ g' : CachedGrid, g'.Reachable ∧ g'.grid = g.swap := by
  obtain rfl := Grid.eq_of_ofTracks h
  have hswapped : Grid.ofTracks rows columns = .ok ⟨⟨⟨rows, []⟩, ⟨columns, []⟩⟩, [], true⟩ := by
    unfold Grid.ofTracks at h ⊢
    split at h
    · cases h
    · next hcolumns =>
      split at h
      · cases h
      · next hrows => rw [if_neg hrows, if_neg hcolumns]
  exact ⟨_, .ofTracks hswapped, rfl⟩

/-- **A history with the axes exchanged** leads to the grid with its axes exchanged. -/
theorem Reachable.exists_swap {g : CachedGrid} (h : g.Reachable) :
    ∃ g' : CachedGrid, g'.Reachable ∧ g'.grid = g.grid.swap := by
  induction h with
  | ofTracks hgrid => exact exists_ofTracks_swap hgrid
  | ofDimensions hgrid =>
    unfold Grid.ofDimensions at hgrid
    split at hgrid
    · cases hgrid
    · exact exists_ofTracks_swap hgrid
  | ofSpecs hgrid =>
    obtain ⟨columns, -, hgrid⟩ := bind_eq_ok_iff.1 hgrid
    obtain ⟨rows, -, hgrid⟩ := bind_eq_ok_iff.1 hgrid
    exact exists_ofTracks_swap hgrid
  | loaded hdecode =>
    obtain ⟨grid, hgrid, rfl⟩ := Option.map_eq_some_iff.1 hdecode
    obtain ⟨v, hv⟩ := Grid.readable_swap ⟨_, hgrid⟩
    exact ⟨.ofGrid grid.swap, .loaded (Option.map_eq_some_iff.2 ⟨_, hv, rfl⟩), rfl⟩
  | after op _ ih =>
    obtain ⟨g', hg', hgrid⟩ := ih
    exact exists_after_swap hg' hgrid op

/-! ## Sizes and layouts -/

/-- What is computed on the second grid is what is computed on the first one, with the axes of the
question and of the result exchanged, and it is computed for both or for none. -/
structure Mirrors (g g' : CachedGrid) : Prop where
  preferredSize : ∀ m (s : Size), (g'.answer (.preferredSize m.swap)).1 = .ok s.swap ↔
    (g.answer (.preferredSize m)).1 = .ok s
  minimumSize : ∀ m (s : Size), (g'.answer (.minimumSize m.swap)).1 = .ok s.swap ↔
    (g.answer (.minimumSize m)).1 = .ok s
  arrange : ∀ m insets container (a : Arrangement),
    (g'.answer (.arrange m.swap insets.swap container.swap)).1 = .ok a.swap ↔
      (g.answer (.arrange m insets container)).1 = .ok a
  /-- Laying out has the same result and leaves the components with the same rectangles. -/
  perform : ∀ p insets container,
    (∀ a : Arrangement,
      ((Layout.free g').perform p.swap insets.swap container.swap).1 = .ok a.swap ↔
        ((Layout.free g).perform p insets container).1 = .ok a) ∧
    ((Layout.free g').perform p.swap insets.swap container.swap).2.2 =
      ((Layout.free g).perform p insets container).2.2.swap

/-- **Symmetry of the axes**: the grid with its axes exchanged has a history if the grid has one,
and whichever it has, without dialog units both have the same sizes and layouts, exchanged. -/
theorem mirrors_of_reachable {g : CachedGrid} (h : g.Reachable) (hfont : g.grid.FontFree) :
    (∃ g' : CachedGrid, g'.Reachable ∧ g'.grid = g.grid.swap) ∧
      ∀ g' : CachedGrid, g'.Reachable → g'.grid = g.grid.swap → g.Mirrors g' := by
  refine ⟨h.exists_swap, fun g' h' hgrid => ?_⟩
  have harrange (m : Measures) (insets : Insets) (container : Size) (a : Arrangement) :
      (g'.answer (.arrange m.swap insets.swap container.swap)).1 = .ok a.swap ↔
        (g.answer (.arrange m insets container)).1 = .ok a := by
    rw [h.answer_eq_scan, h'.answer_eq_scan, hgrid]
    exact hfont.scanArrange_swap_eq_ok_iff m
  refine ⟨fun m s => ?_, fun m s => ?_, harrange, fun p insets container => ?_⟩
  · rw [h.answer_eq_scan, h'.answer_eq_scan, hgrid]
    exact hfont.scanTotalSize_swap_eq_ok_iff m .preferred
  · rw [h.answer_eq_scan, h'.answer_eq_scan, hgrid]
    exact hfont.scanTotalSize_swap_eq_ok_iff m _
  · rw [perform_free, perform_free, Platform.measures_swap]
    refine ⟨harrange p.measures insets container, ?_⟩
    rcases hg : (g.answer (.arrange p.measures insets container)).1 with fault | a
    · -- a layout on one side only would be one on the other
      rcases hg' : (g'.answer (.arrange p.measures.swap insets.swap container.swap)).1 with _ | a'
      · rfl
      · rw [← a'.swap_swap, harrange, hg] at hg'
        cases hg'
    · rw [(harrange _ _ _ _).2 hg]
      exact p.setAllBounds_swap a.bounds

/-- The edited row of three columns as a column of three rows. -/
theorem mirrors_edited :
    let g := edited [] []
    ∃ g' : CachedGrid, g'.Reachable ∧ g'.grid = g.grid.swap ∧ g.Mirrors g' ∧
      (g.answer (.arrange (multiples 40 1) ⟨1, 2, 3, 4⟩ ⟨200, 100⟩)).1.map Arrangement.bounds =
        .ok [(⟨1⟩, ⟨77, 22, 40, 40⟩), (⟨2⟩, ⟨117, 2, 80, 80⟩)] ∧
      (g'.answer (.arrange (multiples 40 1).swap ⟨2, 1, 4, 3⟩ ⟨100, 200⟩)).1.map
        Arrangement.bounds = .ok [(⟨1⟩, ⟨22, 77, 40, 40⟩), (⟨2⟩, ⟨2, 117, 80, 80⟩)] := by
  intro g
  have hg : g.Reachable := reachable_edited [] []
  have hfont : g.grid.FontFree := by
    unfold Grid.FontFree
    decide +kernel
  obtain ⟨⟨g', hg', hgrid⟩, hmirrors⟩ := mirrors_of_reachable hg hfont
  have harrange : (g.answer (.arrange (multiples 40 1) ⟨1, 2, 3, 4⟩ ⟨200, 100⟩)).1 =
      .ok ⟨⟨[116, 60, 20], [80]⟩, ⟨[1, 117, 177], [2]⟩,
        [(⟨1⟩, ⟨77, 22, 40, 40⟩), (⟨2⟩, ⟨117, 2, 80, 80⟩)]⟩ := by
    decide +kernel
  have hswapped := ((hmirrors g' hg' hgrid).arrange _ ⟨1, 2, 3, 4⟩ ⟨200, 100⟩ _).2 harrange
  refine ⟨g', hg', hgrid, hmirrors g' hg' hgrid, ?_, ?_⟩
  · rw [harrange]
    rfl
  · exact congrArg (Except.map Arrangement.bounds) hswapped

end CachedGrid

end GridLayout

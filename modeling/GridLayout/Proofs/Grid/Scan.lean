import GridLayout.Grid.Arrangement

/-!
# The solver without a cache

The solver asks a kept classification which components lie in a track. The same answers come from
scanning the list of components anew for every track. This module writes that plain solver down
and shows that a classification holds exactly what the scans find.

* `Grid.check` goes through the placements as `Grid.classify` does, and keeps nothing
  (`classify_map_unit`).
* `Grid.scanCellSizes`, `Grid.scanGroupedSizes`, `Grid.scanSizesIn`, `Grid.scanTotalSize` and
  `Grid.scanArrange` are the steps of the solver, each from the grid alone.
* `sizesFrom_of_classify`: the sizes computed from the classification of a grid are those of the
  scans.
-/

namespace GridLayout

/-! ## Scanning the components -/

/-- The entry covers one track along the axis, the one with the index. -/
def Entry.isAlone (axis : Axis) (index : Nat) (e : Entry) : Bool :=
  (e.placement.along axis).span == 1 && (e.placement.along axis).start == index

/-- The entry covers several tracks along the axis, or none. -/
def Entry.isSpanning (axis : Axis) (e : Entry) : Bool := (e.placement.along axis).span != 1

namespace Grid

/-- The components of one track alone. -/
def aloneIn (g : Grid) (axis : Axis) (index : Nat) : List Entry :=
  g.components.filter (Entry.isAlone axis index)

/-- The components that span several tracks of an axis. -/
def spanning (g : Grid) (axis : Axis) : List Entry :=
  g.components.filter (Entry.isSpanning axis)

/-- Check the remaining entries after the earlier ones. -/
def checkAfter (g : Grid) (earlier : List Entry) : List Entry → Except LayoutError Unit
  | [] => .ok ()
  | e :: rest => do
    g.checkEntry earlier e
    checkAfter g (earlier ++ [e]) rest

/-- The first fault among the placements, if there is one. -/
def check (g : Grid) : Except LayoutError Unit := g.checkAfter [] g.components

/-! ## The steps of the solver -/

/-- The sizes before any track is enlarged. -/
def scanBaseSizes (g : Grid) (m : Measures) (pass : Pass) (axis : Axis) : List Int :=
  (g.tracks axis).zipIdx.map fun (track, i) =>
    g.baseSize m pass axis track (g.aloneIn axis i)

/-- The sizes without groups, whether or not the placements fit. -/
def scanCellSizes (g : Grid) (m : Measures) (pass : Pass) (axis : Axis) : List Int :=
  (g.spanning axis).foldl (g.accommodate m pass axis) (g.scanBaseSizes m pass axis)

/-- The sizes with the groups of the axis. -/
def scanGroupedSizes (g : Grid) (m : Measures) (pass : Pass) (axis : Axis) :
    Except LayoutError (List Int) := do
  g.check
  applyGroups (g.groups axis) (g.scanCellSizes m pass axis)

/-- The sizes with which the tracks of an axis are laid out in a container. -/
def scanSizesIn (g : Grid) (m : Measures) (axis : Axis) (container : Int) :
    Except LayoutError (List Int) := do
  let preferred ← g.scanGroupedSizes m .preferred axis
  let sizes ←
    if container < wrap (total preferred) ∧ g.canShrink then g.scanGroupedSizes m .minimum axis
    else pure preferred
  return shareOut sizes container (g.tracks axis) (g.weightSum axis)

/-- The size of all tracks together. -/
def scanTotalSize (g : Grid) (m : Measures) (pass : Pass) : Except LayoutError Size := do
  let columns ← g.scanGroupedSizes m pass .horizontal
  let rows ← g.scanGroupedSizes m pass .vertical
  return ⟨wrap (total columns), wrap (total rows)⟩

/-- The layout of all components in a container. -/
def scanArrange (g : Grid) (m : Measures) (insets : Insets) (container : Size) :
    Except LayoutError Arrangement := do
  let content := insets.shrink container
  let columns ← g.scanSizesIn m .horizontal content.width
  let rows ← g.scanSizesIn m .vertical content.height
  let sizes : PerAxis (List Int) := ⟨columns, rows⟩
  let positions : PerAxis (List Int) := ⟨positions insets.left columns, positions insets.top rows⟩
  let bounds ← g.components.mapM (g.bound m sizes positions)
  return ⟨sizes, positions, bounds⟩

/-! ## What a classification holds -/

/-- The places of the entries with a property, in ascending order. -/
def placesOf (p : Entry → Bool) (entries : List Entry) : List Nat :=
  (entries.zipIdx.filter fun (e, _) => p e).map Prod.snd

theorem placesOf_append_singleton (p : Entry → Bool) (entries : List Entry) (e : Entry) :
    placesOf p (entries ++ [e]) = placesOf p entries ++ if p e then [entries.length] else [] := by
  cases hp : p e <;> simp [placesOf, List.zipIdx_append, hp]

/-- The entries at the places found by a property are those with the property. -/
theorem entriesAt_placesOf (g : Grid) (p : Entry → Bool) :
    g.entriesAt (placesOf p g.components) = g.components.filter p := by
  -- over the rest of the registry, with the places counted from the part before it
  suffices h : ∀ before rest : List Entry, g.components = before ++ rest →
      g.entriesAt (((rest.zipIdx before.length).filter fun (e, _) => p e).map Prod.snd) =
        rest.filter p from h [] g.components rfl
  intro before rest hsplit
  induction rest generalizing before with
  | nil => rfl
  | cons e rest ih =>
    have hat : g.components[before.length]? = some e := by simp [hsplit]
    have hrest := ih (before ++ [e]) (by simp [hsplit])
    simp only [List.length_append, List.length_singleton] at hrest
    cases hp : p e with
    | false => simpa [List.zipIdx_cons, hp] using hrest
    | true => simpa [List.zipIdx_cons, hp, entriesAt, hat] using hrest

end Grid

/-- A classification of entries holds, for every track and along every axis, the places at which
a scan finds the components of that track alone and those that span several. -/
structure Classification.Sorts (c : Classification) (g : Grid) (entries : List Entry) : Prop where
  length : ∀ axis, (c.single.along axis).length = g.count axis
  single : ∀ axis i, i < g.count axis →
    c.singleAt axis i = Grid.placesOf (Entry.isAlone axis i) entries
  spanning : ∀ axis, c.spanning.along axis = Grid.placesOf (Entry.isSpanning axis) entries

namespace Classification

theorem sorts_empty (g : Grid) :
    (empty (g.count .horizontal) (g.count .vertical)).Sorts g [] := by
  refine ⟨fun axis => ?_, fun axis i hi => ?_, fun axis => ?_⟩
  · cases axis <;> simp [empty, PerAxis.along]
  · cases axis <;> simp [empty, singleAt, PerAxis.along, Grid.placesOf, hi]
  · cases axis <;> simp [empty, PerAxis.along, Grid.placesOf]

/-! Sorting in along one axis leaves the lists of the other axis alone. -/

theorem length_insertAlong (c : Classification) (axis axis' : Axis) (place : Nat) (slot : Slot) :
    ((c.insertAlong axis place slot).single.along axis').length =
      (c.single.along axis').length := by
  unfold insertAlong
  split
  · rw [PerAxis.along_modify]
    split <;> simp
  · rfl

theorem singleAt_insertAlong (c : Classification) (axis axis' : Axis) (place : Nat) (slot : Slot)
    {i : Nat} (hi : i < (c.single.along axis').length) :
    (c.insertAlong axis place slot).singleAt axis' i =
      c.singleAt axis' i ++
        if axis' = axis ∧ slot.span = 1 ∧ slot.start = i then [place] else [] := by
  unfold insertAlong
  by_cases hspan : slot.span = 1
  · simp only [hspan, if_true, singleAt, PerAxis.along_modify]
    by_cases haxis : axis' = axis
    · subst haxis
      by_cases hstart : slot.start = i <;> simp [List.getElem?_eq_getElem hi, hstart]
    · simp [haxis]
  · simp [hspan, singleAt]

theorem spanning_insertAlong (c : Classification) (axis axis' : Axis) (place : Nat) (slot : Slot) :
    (c.insertAlong axis place slot).spanning.along axis' =
      c.spanning.along axis' ++ if axis' = axis ∧ slot.span ≠ 1 then [place] else [] := by
  unfold insertAlong
  by_cases hspan : slot.span = 1
  · simp [hspan]
  · simp only [hspan, if_false, PerAxis.along_modify]
    by_cases haxis : axis' = axis <;> simp [haxis, hspan]

/-- Sorting in the next entry extends what the classification holds by it. -/
theorem Sorts.insert {c : Classification} {g : Grid} {entries : List Entry}
    (h : c.Sorts g entries) (e : Entry) :
    (c.insert entries.length e.placement).Sorts g (entries ++ [e]) := by
  refine ⟨fun axis => ?_, fun axis i hi => ?_, fun axis => ?_⟩
  · simp only [Classification.insert, length_insertAlong, h.length]
  · rw [Classification.insert,
      singleAt_insertAlong _ _ _ _ _ (by rw [length_insertAlong, h.length]; exact hi),
      singleAt_insertAlong _ _ _ _ _ (by rw [h.length]; exact hi),
      h.single axis i hi, Grid.placesOf_append_singleton]
    cases axis <;> simp [Entry.isAlone, PerAxis.along]
  · rw [Classification.insert, spanning_insertAlong, spanning_insertAlong, h.spanning,
      Grid.placesOf_append_singleton]
    cases axis <;> simp [Entry.isSpanning, PerAxis.along]

end Classification

namespace Grid

/-! ## Classifying is checking and sorting -/

theorem classifyAfter_map_unit (g : Grid) (earlier : List Entry) (c : Classification)
    (rest : List Entry) :
    (g.classifyAfter earlier c rest).map (fun _ => ()) = g.checkAfter earlier rest := by
  induction rest generalizing earlier c with
  | nil => rfl
  | cons e rest ih =>
    simp only [classifyAfter, checkAfter]
    cases g.checkEntry earlier e with
    | error fault => rfl
    | ok _ => exact ih _ _

/-- Classifying a grid fails as checking it does. -/
theorem classify_map_unit (g : Grid) : g.classify.map (fun _ => ()) = g.check :=
  classifyAfter_map_unit g _ _ _

theorem sorts_of_classifyAfter {g : Grid} {earlier : List Entry} {c c' : Classification}
    {rest : List Entry} (hc : c.Sorts g earlier) (h : g.classifyAfter earlier c rest = .ok c') :
    c'.Sorts g (earlier ++ rest) := by
  induction rest generalizing earlier c with
  | nil =>
    obtain rfl : c = c' := by simpa [classifyAfter] using h
    simpa using hc
  | cons e rest ih =>
    simp only [classifyAfter] at h
    cases hcheck : g.checkEntry earlier e with
    | error fault => simp [hcheck, bind, Except.bind] at h
    | ok _ =>
      simp only [hcheck, bind, Except.bind] at h
      simpa using ih (hc.insert e) h

/-- The classification of a grid sorts its components. -/
theorem sorts_of_classify {g : Grid} {c : Classification} (h : g.classify = .ok c) :
    c.Sorts g g.components := by
  simpa using sorts_of_classifyAfter (Classification.sorts_empty g) h

theorem baseSizes_of_classify {g : Grid} {c : Classification} (h : g.classify = .ok c)
    (m : Measures) (pass : Pass) (axis : Axis) :
    g.baseSizes m pass axis c = g.scanBaseSizes m pass axis := by
  have hsorts := sorts_of_classify h
  unfold baseSizes scanBaseSizes
  refine List.map_congr_left fun ⟨track, i⟩ hi => ?_
  have hlt : i < g.count axis := by
    have := List.snd_lt_of_mem_zipIdx hi
    simpa [count] using this
  simp only [hsorts.single axis i hlt, entriesAt_placesOf, aloneIn]

/-- The sizes computed from the classification of a grid are those of the scans. -/
theorem sizesFrom_of_classify {g : Grid} {c : Classification} (h : g.classify = .ok c)
    (m : Measures) (pass : Pass) (axis : Axis) :
    g.sizesFrom m pass axis c = g.scanCellSizes m pass axis := by
  unfold sizesFrom scanCellSizes
  rw [baseSizes_of_classify h, (sorts_of_classify h).spanning, entriesAt_placesOf]
  rfl

end Grid

end GridLayout

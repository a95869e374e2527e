import GridLayout.Persist.Instances
import GridLayout.Proofs.Grid.Agreement

/-!
# Histories of a grid

A grid with its cache comes from tracks, from specifications or from its persisted form, and goes
through any sequence of operations, among them the queries that use and refill the cache. A history
may go on from a copy while another one goes on from the grid that was copied.

* `CachedGrid.Reachable` holds of every grid with its cache that a history can produce, and
  `CachedGrid.exists_reachable` builds a history for any grid.
* `CachedGrid.Reachable.agrees` is the invariant: the cache agrees with the grid.
* `CachedGrid.answer_eq_of_reachable`: what a query answers depends on the grid alone. It is the
  answer of a grid with nothing kept, of the solver that scans the components, and of every other
  reachable grid that compares equal.
-/

namespace GridLayout

/-! ## Queries -/

/-- What a grid can be asked. -/
inductive Query where
  | validate
  | totalWeight (axis : Axis)
  | cellSizes (m : Measures) (pass : Pass) (axis : Axis)
  | groupedSizes (m : Measures) (pass : Pass) (axis : Axis)
  | sizesIn (m : Measures) (axis : Axis) (container : Int)
  | addWeights (axis : Axis) (container : Int) (sizes : List Int)
  | preferredSize (m : Measures)
  | minimumSize (m : Measures)
  | arrange (m : Measures) (insets : Insets) (container : Size)

namespace Query

/-- What the query is answered with. -/
abbrev Answer : Query → Type
  | validate => Unit
  | totalWeight _ => Nat
  | cellSizes .. | groupedSizes .. | sizesIn .. | addWeights .. => List Int
  | preferredSize _ | minimumSize _ => Size
  | arrange .. => Arrangement

/-- The answer by way of the cache. -/
def ask : (q : Query) → Grid → CacheM q.Answer
  | validate, g => g.validate
  | totalWeight axis, g => liftM (g.totalWeight axis)
  | cellSizes m pass axis, g => g.cellSizes m pass axis
  | groupedSizes m pass axis, g => g.groupedSizes m pass axis
  | sizesIn m axis container, g => g.sizesIn m axis container
  | addWeights axis container sizes, g => liftM (g.addWeights axis container sizes)
  | preferredSize m, g => g.preferredSize m
  | minimumSize m, g => g.minimumSize m
  | arrange m insets container, g => g.arrange m insets container

/-- The answer by scanning the components. -/
def scan : (q : Query) → Grid → Except LayoutError q.Answer
  | validate, g => g.check
  | totalWeight axis, g => .ok (g.weightSum axis)
  | cellSizes m pass axis, g => g.check >>= fun _ => .ok (g.scanCellSizes m pass axis)
  | groupedSizes m pass axis, g => g.scanGroupedSizes m pass axis
  | sizesIn m axis container, g => g.scanSizesIn m axis container
  | addWeights axis container sizes, g =>
    .ok (shareOut sizes container (g.tracks axis) (g.weightSum axis))
  | preferredSize m, g => g.scanTotalSize m .preferred
  | minimumSize m, g => g.scanTotalSize m (if g.canShrink then .minimum else .preferred)
  | arrange m insets container, g => g.scanArrange m insets container

/-- With an agreeing cache every query is answered as by scanning. -/
theorem computes_ask (q : Query) (g : Grid) : CacheM.Computes g (q.ask g) (q.scan g) := by
  cases q with
  | validate => exact g.computes_validate
  | totalWeight axis => exact g.computes_totalWeight axis
  | cellSizes m pass axis => exact g.computes_cellSizes m pass axis
  | groupedSizes m pass axis => exact g.computes_groupedSizes m pass axis
  | sizesIn m axis container => exact g.computes_sizesIn m axis container
  | addWeights axis container sizes => exact g.computes_addWeights axis container sizes
  | preferredSize m => exact g.computes_totalSize m .preferred
  | minimumSize m => exact g.computes_totalSize m _
  | arrange m insets container => exact g.computes_arrange m insets container

end Query

/-! ## Operations -/

/-- What can be done to a grid. -/
inductive Operation where
  | setTrack (axis : Axis) (index : Nat) (track : Track)
  | addGroup (axis : Axis) (group : TrackGroup)
  | setCanShrink (canShrink : Bool)
  | add (id : ComponentId) (placement : Placement)
  | remove (id : ComponentId)
  | clear
  | flush
  | copy
  | ask (q : Query)

/-- What is left of an operation without a cache. -/
def Grid.after (g : Grid) : Operation → Grid
  | .setTrack axis index track => (g.setTrack axis index track).toOption.getD g
  | .addGroup axis group => g.addGroup axis group
  | .setCanShrink canShrink => { g with canShrink }
  | .add id placement => g.add id placement
  | .remove id => g.remove id
  | .clear => g.clear
  | .flush | .copy | .ask _ => g

/-- A component that is not registered cannot be taken out. -/
theorem Grid.remove_of_not_contains {g : Grid} {id : ComponentId} (h : ¬g.contains id) :
    g.remove id = g := by
  have hkeep : g.components.filter (fun e => e.id != id) = g.components := by
    refine List.filter_eq_self.2 fun e he => bne_iff_ne.2 fun heq => h ?_
    exact List.any_eq_true.2 ⟨e, he, beq_iff_eq.2 heq⟩
  rw [remove, hkeep]

namespace CachedGrid

/-- The answer of the grid, and the grid with what it has kept after it. -/
def answer (g : CachedGrid) (q : Query) : Except LayoutError q.Answer × CachedGrid := g.run q.ask

/-- The grid after an operation. An operation that fails leaves it as it is, apart from what a
query may have kept; a copy comes with all that is kept. -/
def after (g : CachedGrid) : Operation → CachedGrid
  | .setTrack axis index track => (g.setTrack axis index track).toOption.getD g
  | .addGroup axis group => g.addGroup axis group
  | .setCanShrink canShrink => g.setCanShrink canShrink
  | .add id placement => g.add id placement
  | .remove id => (g.remove id).2
  | .clear => g.clear
  | .flush => g.flush
  | .copy => g
  | .ask q => (g.answer q).2

/-- An operation does to the grid what it does without a cache. -/
theorem grid_after (g : CachedGrid) (op : Operation) : (g.after op).grid = g.grid.after op := by
  cases op with
  | setTrack axis index track =>
    simp only [after, setTrack, Grid.after]
    cases g.grid.setTrack axis index track <;> rfl
  | remove id =>
    simp only [after, remove, Grid.after]
    split
    · rfl
    · next h => exact (Grid.remove_of_not_contains h).symm
  | addGroup | setCanShrink | add | clear | flush | copy | ask => rfl

/-- A history leads to the grid with its cache. -/
inductive Reachable : CachedGrid → Prop
  | ofTracks {columns rows : List Track} {g : Grid} :
    Grid.ofTracks columns rows = .ok g → Reachable (.ofGrid g)
  | ofDimensions {columns rows : Nat} {g : Grid} :
    Grid.ofDimensions columns rows = .ok g → Reachable (.ofGrid g)
  | ofSpecs {columns rows : String} {g : Grid} :
    Grid.ofSpecs columns rows = .ok g → Reachable (.ofGrid g)
  | loaded {v : Value} {g : CachedGrid} : Persisted.decode v = some g → Reachable g
  | after {g : CachedGrid} (op : Operation) : Reachable g → Reachable (g.after op)

/-- A history goes on with any sequence of operations. -/
theorem Reachable.foldl {g : CachedGrid} (h : g.Reachable) (ops : List Operation) :
    (ops.foldl CachedGrid.after g).Reachable := by
  induction ops generalizing g with
  | nil => exact h
  | cons op ops ih => exact ih (h.after op)

end CachedGrid

/-! ## Grids built from nothing -/

theorem Grid.register_of_notMem {entry : Entry} {entries : List Entry}
    (h : entry.id ∉ entries.map Entry.id) : Grid.register entry entries = entries ++ [entry] := by
  induction entries with
  | nil => rfl
  | cons e rest ih =>
    rw [List.map_cons, List.mem_cons, not_or] at h
    rw [register, if_neg (Ne.symm h.1), ih h.2, List.cons_append]

/-- A grid made of tracks has nothing but these. -/
theorem Grid.eq_of_ofTracks {columns rows : List Track} {g : Grid}
    (h : ofTracks columns rows = .ok g) : g = ⟨⟨⟨columns, []⟩, ⟨rows, []⟩⟩, [], true⟩ := by
  unfold ofTracks at h
  split at h
  · cases h
  · split at h
    · cases h
    · exact (Except.ok.inj h).symm

theorem Grid.ofTracks_eq_ok {columns rows : List Track} (hcolumns : columns ≠ [])
    (hrows : rows ≠ []) :
    ofTracks columns rows = .ok ⟨⟨⟨columns, []⟩, ⟨rows, []⟩⟩, [], true⟩ := by
  simp [ofTracks, hcolumns, hrows]

/-- Registering components touches nothing else of a grid. -/
theorem Grid.foldl_add (entries : List Entry) (g : Grid) :
    entries.foldl (fun g e => g.add e.id e.placement) g =
      { g with components := entries.foldl (fun l e => register e l) g.components } := by
  induction entries generalizing g with
  | nil => rfl
  | cons e entries ih => exact ih _

/-- Components that are not registered end up behind the others. -/
theorem Grid.foldl_register {entries l : List Entry} (h : ((l ++ entries).map Entry.id).Nodup) :
    entries.foldl (fun l e => register e l) l = l ++ entries := by
  induction entries generalizing l with
  | nil => simp
  | cons e entries ih =>
    have hnew : e.id ∉ l.map Entry.id := by
      rw [List.map_append, List.nodup_append] at h
      exact fun hmem => h.2.2 _ hmem _ (by simp) rfl
    rw [List.foldl_cons, register_of_notMem hnew, ih (by simpa using h)]
    simp

namespace CachedGrid

/-- Groups added one after another end up behind the others. -/
theorem grid_foldl_addGroup (g : CachedGrid) (axis : Axis) (groups : List TrackGroup) :
    ((groups.map (Operation.addGroup axis)).foldl after g).grid =
      { g.grid with lanes := g.grid.lanes.modify axis fun lane =>
          { lane with groups := lane.groups ++ groups } } := by
  induction groups generalizing g with
  | nil => cases axis <;> simp [PerAxis.modify]
  | cons group groups ih =>
    rw [List.map_cons, List.foldl_cons, ih]
    cases axis <;> simp [after, CachedGrid.addGroup, Grid.addGroup, PerAxis.modify]

/-- So do components, if none of them is registered. -/
theorem grid_foldl_add (g : CachedGrid) {entries : List Entry}
    (h : ((g.grid.components ++ entries).map Entry.id).Nodup) :
    ((entries.map fun e => Operation.add e.id e.placement).foldl after g).grid =
      { g.grid with components := g.grid.components ++ entries } := by
  induction entries generalizing g with
  | nil => simp
  | cons e entries ih =>
    have hnew : e.id ∉ g.grid.components.map Entry.id := by
      rw [List.map_append, List.nodup_append] at h
      exact fun hmem => h.2.2 _ hmem _ (by simp) rfl
    have hadd : (g.after (.add e.id e.placement)).grid.components = g.grid.components ++ [e] :=
      Grid.register_of_notMem hnew
    rw [List.map_cons, List.foldl_cons, ih]
    · rw [hadd, List.append_assoc, List.singleton_append]
      rfl
    · rwa [hadd, List.append_assoc, List.singleton_append]

/-- Every grid that has tracks, and no component twice, has a history. -/
theorem exists_reachable {g : Grid} (htracks : ∀ axis, g.tracks axis ≠ [])
    (hids : (g.components.map Entry.id).Nodup) :
    ∃ g' : CachedGrid, g'.Reachable ∧ g'.grid = g := by
  obtain ⟨⟨⟨columns, columnGroups⟩, ⟨rows, rowGroups⟩⟩, components, canShrink⟩ := g
  have hempty := Grid.ofTracks_eq_ok (htracks .horizontal) (htracks .vertical)
  let ops : List Operation := .setCanShrink canShrink ::
    (columnGroups.map (.addGroup .horizontal) ++ rowGroups.map (.addGroup .vertical) ++
      components.map fun e => .add e.id e.placement)
  refine ⟨_, (Reachable.ofTracks hempty).foldl ops, ?_⟩
  rw [List.foldl_cons, List.foldl_append, List.foldl_append, grid_foldl_add,
    grid_foldl_addGroup, grid_foldl_addGroup]
  · rfl
  · rw [grid_foldl_addGroup, grid_foldl_addGroup]
    exact hids

end CachedGrid

/-! ## The cache of a reachable grid -/

namespace Grid

theorem checkEntry_congr {g g' : Grid} (hcount : ∀ axis, g'.count axis = g.count axis)
    (earlier : List Entry) (e : Entry) : g'.checkEntry earlier e = g.checkEntry earlier e := by
  simp only [checkEntry, checkInside, checkTarget, hcount]

/-- A classification is made of the numbers of tracks and the components. -/
theorem classify_congr {g g' : Grid} (hcount : ∀ axis, g'.count axis = g.count axis)
    (hcomponents : g'.components = g.components) : g'.classify = g.classify := by
  have h : ∀ (rest earlier : List Entry) (c : Classification),
      g'.classifyAfter earlier c rest = g.classifyAfter earlier c rest := by
    intro rest
    induction rest with
    | nil => intro _ _; rfl
    | cons e rest ih =>
      intro earlier c
      simp only [classifyAfter, checkEntry_congr hcount, ih]
  rw [classify, classify, hcount, hcount, hcomponents, h]

theorem tracks_setTrack {g g' : Grid} {axis : Axis} {index : Nat} {track : Track}
    (h : g.setTrack axis index track = .ok g') (axis' : Axis) :
    g'.tracks axis' =
      if axis' = axis then (g.tracks axis').set index track else g.tracks axis' := by
  unfold setTrack at h
  split at h
  · obtain rfl := Except.ok.inj h
    simp only [tracks, PerAxis.along_modify]
    split <;> rfl
  · cases h

@[simp] theorem tracks_addGroup (g : Grid) (axis : Axis) (group : TrackGroup) (axis' : Axis) :
    (g.addGroup axis group).tracks axis' = g.tracks axis' := by
  simp only [tracks, addGroup, PerAxis.along_modify]
  split <;> rfl

theorem components_setTrack {g g' : Grid} {axis : Axis} {index : Nat} {track : Track}
    (h : g.setTrack axis index track = .ok g') : g'.components = g.components := by
  unfold setTrack at h
  split at h
  · obtain rfl := Except.ok.inj h
    rfl
  · cases h

end Grid

namespace CachedGrid

open Grid

variable {g : CachedGrid}

theorem agrees_setTrack (h : g.cache.Agrees g.grid) {axis : Axis} {index : Nat} {track : Track}
    {g' : CachedGrid} (hset : g.setTrack axis index track = .ok g') :
    g'.cache.Agrees g'.grid := by
  unfold CachedGrid.setTrack at hset
  rcases hgrid : g.grid.setTrack axis index track with fault | grid
  · simp [hgrid, bind, Except.bind] at hset
  · obtain rfl : (⟨grid, g.cache.invalidateWeights⟩ : CachedGrid) = g' := by
      simpa [hgrid, bind, Except.bind, pure, Except.pure] using hset
    refine h.invalidateWeights (classify_congr (fun axis' => ?_) (components_setTrack hgrid))
    simp only [count, tracks_setTrack hgrid]
    split <;> simp

/-- A query keeps only what agrees with the grid. -/
theorem agrees_answer (h : g.cache.Agrees g.grid) (q : Query) :
    (g.answer q).2.cache.Agrees (g.answer q).2.grid :=
  (q.computes_ask g.grid g.cache h).2

/-- Every operation keeps a cache that agrees with the grid. -/
theorem agrees_after (h : g.cache.Agrees g.grid) (op : Operation) :
    (g.after op).cache.Agrees (g.after op).grid := by
  cases op with
  | setTrack axis index track =>
    rcases hset : g.setTrack axis index track with fault | g'
    · simpa [after, hset, Except.toOption] using h
    · simpa [after, hset, Except.toOption] using agrees_setTrack h hset
  | addGroup axis group =>
    have htracks := g.grid.tracks_addGroup axis group
    exact h.of_eq (classify_congr (fun axis' => congrArg List.length (htracks axis')) rfl)
      (fun axis' => by simp only [weightSum, after, CachedGrid.addGroup, htracks])
  | setCanShrink canShrink => exact h.of_eq (classify_congr (fun _ => rfl) rfl) fun _ => rfl
  | add id placement => exact h.invalidate fun _ => rfl
  | remove id =>
    simp only [after, remove]
    split
    · exact h.invalidate fun _ => rfl
    · exact h
  | clear => exact h.invalidate fun _ => rfl
  | flush => exact (h.invalidate fun _ => rfl).invalidateWeights rfl
  | copy => exact h
  | ask q => exact agrees_answer h q

/-- **The invariant of all histories**: the cache agrees with the grid. -/
theorem Reachable.agrees (h : g.Reachable) : g.cache.Agrees g.grid := by
  induction h with
  | ofTracks | ofDimensions | ofSpecs => exact Cache.agrees_empty _
  | loaded hdecode =>
    obtain ⟨grid, -, rfl⟩ := Option.map_eq_some_iff.1 hdecode
    exact Cache.agrees_empty grid
  | after op _ ih => exact agrees_after ih op

/-- A reachable grid answers as by scanning its components. -/
theorem Reachable.answer_eq_scan (h : g.Reachable) (q : Query) :
    (g.answer q).1 = q.scan g.grid :=
  (q.computes_ask g.grid g.cache h.agrees).1

/-- **Answers do not depend on the history**: a reachable grid answers every query as the grid
with nothing kept does, as the solver that scans the components does, and as every reachable grid
does that compares equal to it. -/
theorem answer_eq_of_reachable (h : g.Reachable) (q : Query) :
    (g.answer q).1 = ((ofGrid g.grid).answer q).1 ∧ (g.answer q).1 = q.scan g.grid ∧
      ∀ g' : CachedGrid, g'.Reachable → g == g' → (g.answer q).1 = (g'.answer q).1 := by
  have hscan := h.answer_eq_scan q
  refine ⟨?_, hscan, fun g' h' heq => ?_⟩
  · rw [hscan]
    exact (q.computes_ask g.grid .empty (Cache.agrees_empty g.grid)).1.symm
  · have hgrid : g.grid = g'.grid := eq_of_beq heq
    rw [hscan, h'.answer_eq_scan q, hgrid]

/-! Edits of the usual grid of three columns. -/

deriving instance DecidableEq for Except

/-- The edits, with queries before and after the tracks and groups change. -/
def edits (before after : List Query) : List Operation :=
  let shared : Track := ⟨.trailing, .preferred, .zero, 30, Length.isNegative_zero, by decide⟩
  let fixed : Track := ⟨.center, .fixed, .pixels 20, 0, by decide +kernel, Nat.zero_le _⟩
  .add ⟨1⟩ (.single 0 0) :: before.map .ask ++
    [.setTrack .horizontal 0 shared, .setTrack .horizontal 2 fixed,
      .addGroup .horizontal ⟨[0, 1], by decide, by decide⟩,
      .add ⟨2⟩ ⟨⟨1, 2, none, none⟩, .single 0⟩] ++ after.map .ask

def edited (before after : List Query) : CachedGrid :=
  (edits before after).foldl CachedGrid.after
    (.ofGrid ⟨⟨⟨List.replicate 3 .defaultColumn, []⟩, ⟨[.defaultRow], []⟩⟩, [], true⟩)

theorem reachable_edited (before after : List Query) : (edited before after).Reachable := by
  have hgrid : Grid.ofDimensions 3 1 =
      .ok ⟨⟨⟨List.replicate 3 .defaultColumn, []⟩, ⟨[.defaultRow], []⟩⟩, [], true⟩ := rfl
  exact (Reachable.ofDimensions hgrid).foldl _

/-- Components that measure so many times their numbers. -/
def multiples (preferred minimum : Nat) : Measures :=
  ⟨Screen.default.metrics, fun id _ => preferred * id.value, fun id _ => minimum * id.value⟩

/-- Two edited grids, one of which looked up its weights before they changed, size their columns
alike. -/
theorem answer_edited :
    let q : Query := .sizesIn (multiples 40 1) .horizontal 196
    let g := edited [.totalWeight .horizontal, .validate] [.validate]
    let g' := edited [] []
    g.Reachable ∧ g'.Reachable ∧ (g.answer q).1 = (g'.answer q).1 ∧
      (g.answer q).1 = .ok [116, 60, 20] := by
  intro q g g'
  have hg : g.Reachable := reachable_edited _ _
  have hg' : g'.Reachable := reachable_edited _ _
  refine ⟨hg, hg', (answer_eq_of_reachable hg q).2.2 g' hg' ?_, ?_⟩ <;> decide +kernel

/-! A grid of two columns on a screen with a negative font size. The first column is as narrow as 32
bits can say, so what it leaves of a container may be more than they can say. The second one has a
component and takes all that is left. -/

def negativeFont : Metrics := ⟨96, fun _ => .ofInt (-1000000000000)⟩

def dialogUnit : Length := ⟨.ofInt 1, .dialog⟩

theorem isNegative_dialogUnit : dialogUnit.value.isNegative = false := by decide +kernel

def leaning : CachedGrid :=
  let narrow : Track :=
    ⟨.fill, .preferred, dialogUnit, 0, isNegative_dialogUnit, Nat.zero_le _⟩
  let weighted : Track :=
    { Track.defaultColumn with weight := maxWeight, weight_le := Nat.le_refl _ }
  [.setCanShrink false, .add ⟨1⟩ (.single 1 0)].foldl CachedGrid.after
    (.ofGrid ⟨⟨⟨[narrow, weighted], []⟩, ⟨[.defaultRow], []⟩⟩, [], true⟩)

theorem reachable_leaning : leaning.Reachable := by
  have hgrid (tracks : List Track) (h : tracks ≠ []) : Grid.ofTracks tracks [.defaultRow] =
      .ok ⟨⟨⟨tracks, []⟩, ⟨[.defaultRow], []⟩⟩, [], true⟩ := by
    simp [Grid.ofTracks, h]
  exact (Reachable.ofTracks (hgrid _ (List.cons_ne_nil _ _))).foldl _

/-! A grid of three columns that may not shrink, with a component in each. Components of 1500000000
pixels together take more than 32 bits hold. -/

def crowded : CachedGrid :=
  [.setCanShrink false, .add ⟨1⟩ (.single 0 0), .add ⟨2⟩ (.single 1 0),
    .add ⟨3⟩ (.single 2 0)].foldl CachedGrid.after
    (.ofGrid ⟨⟨⟨List.replicate 3 .defaultColumn, []⟩, ⟨[.defaultRow], []⟩⟩, [], true⟩)

def wideMeasures : Measures :=
  ⟨Screen.default.metrics, fun _ axis => if axis = .horizontal then 1500000000 else 10,
    fun _ _ => 0⟩

theorem reachable_crowded : crowded.Reachable := by
  have hgrid : Grid.ofTracks (List.replicate 3 .defaultColumn) [.defaultRow] =
      .ok ⟨⟨⟨List.replicate 3 .defaultColumn, []⟩, ⟨[.defaultRow], []⟩⟩, [], true⟩ := rfl
  exact (Reachable.ofTracks hgrid).foldl _

end CachedGrid

end GridLayout

import GridLayout.Proofs.Bare.Tracks
import GridLayout.Proofs.Grid.History
import GridLayout.Proofs.Sizing.Shares

/-!
# Grids without proofs

A grid holds tracks and groups, and its operations only move them about. So a grid of bare tracks
that is made, changed and loaded in all possible ways is the same as one of tracks, and everything
in it is in bounds: no operation and no persisted form puts anything else into a grid.

* `BareGrid` and `BareGrid.Reachable`: a grid of bare tracks, and its histories.
* `BareGrid.map_bare_decode` and its siblings: what is done to a grid is done to the bare one.
* `BareGrid.reachable_iff`: the reachable bare grids are those of the reachable grids.
* `BareGrid.bounds_on_every_route`: all of it, and what follows for weights and shares.
-/

namespace GridLayout

/-! ## Grids of bare tracks -/

structure BareSlot where
  start : Nat
  span : Nat
  target : Option Nat
  override : Option BareTrack

abbrev BarePlacement : Type := PerAxis BareSlot

/-- The bare tracks of one axis and the indices of the groups among them. -/
structure BareLane where
  tracks : List BareTrack
  groups : List (List Nat)

structure BareGrid where
  lanes : PerAxis BareLane
  components : List (ComponentId × BarePlacement)
  canShrink : Bool

def Slot.bare (s : Slot) : BareSlot := ⟨s.start, s.span, s.target, s.override.map Track.bare⟩

def Entry.bare (e : Entry) : ComponentId × BarePlacement := (e.id, e.placement.map Slot.bare)

def Lane.bare (lane : Lane) : BareLane :=
  ⟨lane.tracks.map Track.bare, lane.groups.map TrackGroup.indices⟩

/-- The grid without proofs. -/
def Grid.bare (g : Grid) : BareGrid :=
  ⟨g.lanes.map Lane.bare, g.components.map Entry.bare, g.canShrink⟩

namespace BareGrid

def tracks (g : BareGrid) (axis : Axis) : List BareTrack := (g.lanes.along axis).tracks

def groups (g : BareGrid) (axis : Axis) : List (List Nat) := (g.lanes.along axis).groups

/-! ### Operations -/

/-- A grid of the given columns and rows, of which there must be some. -/
def ofTracks (columns rows : List BareTrack) : Except LayoutError BareGrid :=
  if columns.isEmpty then .error (.argument .noColumns)
  else if rows.isEmpty then .error (.argument .noRows)
  else .ok ⟨⟨⟨columns, []⟩, ⟨rows, []⟩⟩, [], true⟩

/-- A grid of so many usual columns and rows. -/
def ofDimensions (columns rows : Nat) : Except LayoutError BareGrid :=
  if columns = 0 ∨ rows = 0 then .error (.argument (.emptyDimensions columns rows))
  else ofTracks (List.replicate columns (.usual .fill)) (List.replicate rows (.usual .center))

/-- A grid of two lists of track specifications. -/
def ofSpecs (columns rows : String) : Except LayoutError BareGrid := do
  let columns ← BareTrack.readList columns.toList .fill
  let rows ← BareTrack.readList rows.toList .center
  ofTracks columns rows

/-- Replace a track. -/
def setTrack (g : BareGrid) (axis : Axis) (index : Nat) (track : BareTrack) :
    Except LayoutError BareGrid :=
  if index < (g.tracks axis).length then
    .ok { g with
      lanes := g.lanes.modify axis fun lane => { lane with tracks := lane.tracks.set index track } }
  else .error (.outOfBounds index (g.tracks axis).length)

def addGroup (g : BareGrid) (axis : Axis) (group : List Nat) : BareGrid :=
  { g with lanes := g.lanes.modify axis fun lane => { lane with groups := lane.groups ++ [group] } }

/-- Put an entry at the end, or in the place of the first one of the same component. -/
def register (entry : ComponentId × BarePlacement) :
    List (ComponentId × BarePlacement) → List (ComponentId × BarePlacement)
  | [] => [entry]
  | e :: rest => if e.1 = entry.1 then entry :: rest else e :: register entry rest

def add (g : BareGrid) (id : ComponentId) (placement : BarePlacement) : BareGrid :=
  { g with components := register (id, placement) g.components }

def remove (g : BareGrid) (id : ComponentId) : BareGrid :=
  { g with components := g.components.filter fun e => e.1 != id }

def clear (g : BareGrid) : BareGrid := { g with components := [] }

end BareGrid

/-! ### Persisted forms -/

namespace Persisted

variable {α β : Type}

/-- A field that must be there, read in a given way. -/
def requiredBy (read : Value → Option α) (v : Value) (name : String) : Option α := do
  read (← v.field? name)

/-- A field that has a default if it is not there. -/
def defaultedBy (read : Value → Option α) (v : Value) (name : String) (default : α) : Option α :=
  match v.field? name with
  | some w => read w
  | none => some default

/-- A field that may be missing or null. -/
def optionalBy (read : Value → Option α) (v : Value) (name : String) : Option (Option α) :=
  match v.field? name with
  | none | some .null => some none
  | some w => (read w).map some

def listBy (read : Value → Option α) : Value → Option (List α)
  | .list items => items.mapM read
  | _ => none

variable [Persisted α] {read : Value → Option β} {turn : α → β}

theorem map_required (h : ∀ v, turn <$> decode v = read v) (v : Value) (name : String) :
    turn <$> required v name = requiredBy read v name := by
  simp only [required, requiredBy, map_bind, h]

theorem map_defaulted (h : ∀ v, turn <$> decode v = read v) (v : Value) (name : String)
    (default : α) :
    turn <$> defaulted v name default = defaultedBy read v name (turn default) := by
  unfold defaulted defaultedBy
  cases v.field? name with
  | some w => exact h w
  | none => rfl

theorem map_optional (h : ∀ v, turn <$> decode v = read v) (v : Value) (name : String) :
    Option.map turn <$> optional v name = optionalBy read v name := by
  unfold optional optionalBy
  cases v.field? name with
  | none => rfl
  | some w =>
    cases w with
    | null => rfl
    | bool | int | float | text | list | object =>
      simp only [← h, Option.map_eq_map, Option.map_map]
      rfl

theorem map_list (h : ∀ v, turn <$> decode v = read v) (v : Value) :
    List.map turn <$> decode v = listBy read v := by
  cases v with
  | list items =>
    change List.map turn <$> items.mapM decode = items.mapM read
    rw [map_mapM]
    simp only [h]
  | null | bool | int | float | text | object => rfl

theorem map_defaulted_list (h : ∀ v, turn <$> decode v = read v) (v : Value) (name : String) :
    List.map turn <$> defaulted v name [] = defaultedBy (listBy read) v name [] :=
  map_defaulted (map_list h) v name []

end Persisted

namespace BareGrid

open Persisted

def decodePlacement (v : Value) : Option BarePlacement := do
  let column ← required v "column"
  let row ← required v "row"
  let spanX ← required v "span_x"
  let spanY ← required v "span_y"
  let targetColumn ← optional v "target_column"
  let targetRow ← optional v "target_row"
  let columnOverride ← optionalBy BareTrack.decode v "column_constraints"
  let rowOverride ← optionalBy BareTrack.decode v "row_constraints"
  return ⟨⟨column, spanX, targetColumn, columnOverride⟩, ⟨row, spanY, targetRow, rowOverride⟩⟩

def decodeEntry : Value → Option (ComponentId × BarePlacement)
  | .list [id, placement] => do return (← Persisted.decode id, ← decodePlacement placement)
  | _ => none

/-- The grid of a persisted form. -/
def decode (v : Value) : Option BareGrid := do
  let columns ← requiredBy (listBy BareTrack.decode) v "columns"
  let rows ← requiredBy (listBy BareTrack.decode) v "rows"
  let columnGroups ← defaultedBy (listBy BareGroup.decode) v "column_groups" []
  let rowGroups ← defaultedBy (listBy BareGroup.decode) v "row_groups" []
  let components ← defaultedBy (listBy decodeEntry) v "components" []
  let canShrink ← defaulted v "can_shrink" true
  return ⟨⟨⟨columns, columnGroups⟩, ⟨rows, rowGroups⟩⟩, components, canShrink⟩

theorem map_bare_decodePlacement (v : Value) :
    PerAxis.map Slot.bare <$> Persisted.decode v = decodePlacement v := by
  unfold decodePlacement
  simp only [← map_optional BareTrack.map_bare_decode, bind_map_left]
  simp only [Persisted.decode, map_bind, map_pure]
  rfl

theorem map_bare_decodeEntry (v : Value) : Entry.bare <$> Persisted.decode v = decodeEntry v := by
  cases v with
  | list items =>
    match items with
    | [id, placement] =>
      change Entry.bare <$> ((fun p : ComponentId × Placement => Entry.mk p.1 p.2) <$>
        (do return (← Persisted.decode id, ← Persisted.decode placement))) = _
      simp only [decodeEntry, ← map_bare_decodePlacement, bind_map_left, map_bind, map_pure]
      rfl
    | [] | [_] | _ :: _ :: _ :: _ => rfl
  | null | bool | int | float | text | object => rfl

theorem map_bare_decode (v : Value) : Grid.bare <$> Persisted.decode v = decode v := by
  unfold decode
  simp only [← map_required (map_list BareTrack.map_bare_decode),
    ← map_defaulted_list BareGroup.map_indices_decode, ← map_defaulted_list map_bare_decodeEntry,
    bind_map_left]
  simp only [Persisted.decode, map_bind, map_pure]
  rfl

/-! ### What is done to a grid is done to the bare one -/

@[simp] theorem tracks_bare (g : Grid) (axis : Axis) :
    g.bare.tracks axis = (g.tracks axis).map Track.bare := by
  simp [tracks, Grid.bare, Lane.bare, Grid.tracks]

@[simp] theorem groups_bare (g : Grid) (axis : Axis) :
    g.bare.groups axis = (g.groups axis).map TrackGroup.indices := by
  simp [groups, Grid.bare, Lane.bare, Grid.groups]

theorem map_bare_ofTracks (columns rows : List Track) :
    Grid.bare <$> Grid.ofTracks columns rows =
      ofTracks (columns.map Track.bare) (rows.map Track.bare) := by
  unfold Grid.ofTracks ofTracks
  rw [List.isEmpty_map, List.isEmpty_map]
  split
  · rfl
  · split <;> rfl

theorem map_bare_ofDimensions (columns rows : Nat) :
    Grid.bare <$> Grid.ofDimensions columns rows = ofDimensions columns rows := by
  unfold Grid.ofDimensions ofDimensions
  split
  · rfl
  · rw [map_bare_ofTracks, List.map_replicate, List.map_replicate]
    rfl

theorem map_bare_ofSpecs (columns rows : String) :
    Grid.bare <$> Grid.ofSpecs columns rows = ofSpecs columns rows := by
  simp only [Grid.ofSpecs, ofSpecs, ← BareTrack.map_bare_readList, map_bind, bind_map_left,
    map_bare_ofTracks]

theorem map_bare_setTrack (g : Grid) (axis : Axis) (index : Nat) (track : Track) :
    Grid.bare <$> g.setTrack axis index track = g.bare.setTrack axis index track.bare := by
  unfold Grid.setTrack setTrack
  rw [tracks_bare, List.length_map, ← Grid.count]
  split
  · cases axis <;> simp [Functor.map, Except.map, Grid.bare, Lane.bare, PerAxis.map, PerAxis.modify]
  · rfl

theorem bare_addGroup (g : Grid) (axis : Axis) (group : TrackGroup) :
    (g.addGroup axis group).bare = g.bare.addGroup axis group.indices := by
  cases axis <;>
    simp [Grid.addGroup, addGroup, Grid.bare, Lane.bare, PerAxis.map, PerAxis.modify]

theorem map_bare_register (entry : Entry) (entries : List Entry) :
    (Grid.register entry entries).map Entry.bare =
      register entry.bare (entries.map Entry.bare) := by
  induction entries with
  | nil => rfl
  | cons e rest ih =>
    simp only [Grid.register, List.map_cons, register]
    by_cases h : e.id = entry.id
    · rw [if_pos h, List.map_cons]
      exact (if_pos h).symm
    · rw [if_neg h, List.map_cons, ih]
      exact (if_neg h).symm

theorem bare_add (g : Grid) (id : ComponentId) (p : Placement) :
    (g.add id p).bare = g.bare.add id (p.map Slot.bare) := by
  simp only [Grid.add, add, Grid.bare, map_bare_register]
  rfl

theorem bare_remove (g : Grid) (id : ComponentId) : (g.remove id).bare = g.bare.remove id := by
  simp only [Grid.remove, remove, Grid.bare, List.filter_map]
  rfl

/-! ## Histories -/

/-- A history leads to the bare grid. The tracks and groups that are put into it arise in some way
or other. -/
inductive Reachable : BareGrid → Prop
  | ofTracks {columns rows : List BareTrack} {g : BareGrid} :
    (∀ t ∈ columns, t.Arises) → (∀ t ∈ rows, t.Arises) → ofTracks columns rows = .ok g → Reachable g
  | ofDimensions {columns rows : Nat} {g : BareGrid} :
    ofDimensions columns rows = .ok g → Reachable g
  | ofSpecs {columns rows : String} {g : BareGrid} : ofSpecs columns rows = .ok g → Reachable g
  | loaded {v : Value} {g : BareGrid} : decode v = some g → Reachable g
  | setTrack {g g' : BareGrid} {axis : Axis} {index : Nat} {track : BareTrack} :
    Reachable g → track.Arises → g.setTrack axis index track = .ok g' → Reachable g'
  | addGroup {g : BareGrid} {group : List Nat} (axis : Axis) :
    Reachable g → BareGroup.Arises group → Reachable (g.addGroup axis group)
  | setCanShrink {g : BareGrid} (canShrink : Bool) : Reachable g → Reachable { g with canShrink }
  | add {g : BareGrid} (id : ComponentId) {p : BarePlacement} :
    Reachable g → (∀ axis, ∀ t ∈ (p.along axis).override, t.Arises) → Reachable (g.add id p)
  | remove {g : BareGrid} (id : ComponentId) : Reachable g → Reachable (g.remove id)
  | clear {g : BareGrid} : Reachable g → Reachable g.clear

theorem exists_slot_bare {slot : BareSlot} (h : ∀ t ∈ slot.override, t.Arises) :
    ∃ s : Slot, s.bare = slot := by
  obtain ⟨start, span, target, _ | t⟩ := slot
  · exact ⟨⟨start, span, target, none⟩, rfl⟩
  · have ht : t.Arises := h t rfl
    lift t to Track using ht
    exact ⟨⟨start, span, target, some t⟩, rfl⟩

theorem exists_placement_bare {p : BarePlacement}
    (h : ∀ axis, ∀ t ∈ (p.along axis).override, t.Arises) :
    ∃ q : Placement, q.map Slot.bare = p := by
  obtain ⟨x, hx⟩ := exists_slot_bare (h .horizontal)
  obtain ⟨y, hy⟩ := exists_slot_bare (h .vertical)
  refine ⟨⟨x, y⟩, PerAxis.eq_of_along_eq fun axis => ?_⟩
  cases axis with
  | horizontal => exact hx
  | vertical => exact hy

theorem arises_bare (t : Track) : t.bare.Arises :=
  BareTrack.arises_iff_inBounds.2 (BareTrack.inBounds_bare t)

theorem arises_indices (group : TrackGroup) : BareGroup.Arises group.indices :=
  BareGroup.arises_iff_ascending.2 ⟨group.two_le, group.ascending⟩

/-- A history of a bare grid is one of a grid. -/
theorem Reachable.exists_bare {g : BareGrid} (h : g.Reachable) :
    ∃ cached : CachedGrid, cached.Reachable ∧ cached.grid.bare = g := by
  induction h with
  | @ofTracks columns rows _ hcolumns hrows h =>
    lift columns to List Track using hcolumns
    lift rows to List Track using hrows
    obtain ⟨g, hg, rfl⟩ := map_eq_ok_iff.1 ((map_bare_ofTracks _ _).trans h)
    exact ⟨.ofGrid g, .ofTracks hg, rfl⟩
  | ofDimensions h =>
    obtain ⟨g, hg, rfl⟩ := map_eq_ok_iff.1 ((map_bare_ofDimensions _ _).trans h)
    exact ⟨.ofGrid g, .ofDimensions hg, rfl⟩
  | ofSpecs h =>
    obtain ⟨g, hg, rfl⟩ := map_eq_ok_iff.1 ((map_bare_ofSpecs _ _).trans h)
    exact ⟨.ofGrid g, .ofSpecs hg, rfl⟩
  | loaded h =>
    obtain ⟨g, hg, rfl⟩ := Option.map_eq_some_iff.1 ((map_bare_decode _).trans h)
    exact ⟨.ofGrid g, .loaded (Option.map_eq_some_iff.2 ⟨g, hg, rfl⟩), rfl⟩
  | @setTrack _ _ axis index track _ htrack h ih =>
    obtain ⟨cached, hcached, rfl⟩ := ih
    lift track to Track using htrack
    obtain ⟨g, hg, rfl⟩ := map_eq_ok_iff.1 ((map_bare_setTrack _ _ _ _).trans h)
    refine ⟨_, hcached.after (.setTrack axis index track), ?_⟩
    rw [CachedGrid.grid_after, Grid.after, hg]
    rfl
  | @addGroup _ group axis _ hgroup ih =>
    obtain ⟨cached, hcached, rfl⟩ := ih
    lift group to TrackGroup using hgroup
    exact ⟨_, hcached.after (.addGroup axis group), bare_addGroup _ _ _⟩
  | setCanShrink canShrink _ ih =>
    obtain ⟨cached, hcached, rfl⟩ := ih
    exact ⟨_, hcached.after (.setCanShrink canShrink), rfl⟩
  | add id _ hp ih =>
    obtain ⟨cached, hcached, rfl⟩ := ih
    obtain ⟨p, rfl⟩ := exists_placement_bare hp
    exact ⟨_, hcached.after (.add id p), bare_add _ _ _⟩
  | remove id _ ih =>
    obtain ⟨cached, hcached, rfl⟩ := ih
    refine ⟨_, hcached.after (.remove id), ?_⟩
    rw [CachedGrid.grid_after]
    exact bare_remove _ _
  | clear _ ih =>
    obtain ⟨cached, hcached, rfl⟩ := ih
    exact ⟨_, hcached.after .clear, rfl⟩

/-- An operation on a grid is one on the bare grid, or does nothing to it. -/
theorem Reachable.after {g : Grid} (h : g.bare.Reachable) (op : Operation) :
    (g.after op).bare.Reachable := by
  cases op with
  | setTrack axis index track =>
    simp only [Grid.after]
    cases hset : g.setTrack axis index track with
    | error fault => exact h
    | ok g' =>
      have hbare := (map_bare_setTrack _ _ _ _).symm.trans (map_eq_ok_iff.2 ⟨g', hset, rfl⟩)
      exact h.setTrack (arises_bare track) hbare
  | addGroup axis group =>
    rw [Grid.after, bare_addGroup]
    exact h.addGroup axis (arises_indices group)
  | setCanShrink canShrink => exact h.setCanShrink canShrink
  | add id p =>
    rw [Grid.after, bare_add]
    refine h.add id fun axis t ht => ?_
    rw [PerAxis.along_map] at ht
    obtain ⟨track, -, rfl⟩ := Option.map_eq_some_iff.1 ht
    exact arises_bare track
  | remove id =>
    rw [Grid.after, bare_remove]
    exact h.remove id
  | clear => exact h.clear
  | flush | copy | ask => exact h

/-- A history of a grid is one of the bare grid. -/
theorem reachable_bare {cached : CachedGrid} (h : cached.Reachable) :
    cached.grid.bare.Reachable := by
  induction h with
  | ofTracks h =>
    have hbare := (map_bare_ofTracks _ _).symm.trans (map_eq_ok_iff.2 ⟨_, h, rfl⟩)
    refine .ofTracks ?_ ?_ hbare
    · exact List.forall_mem_map.2 fun t _ => arises_bare t
    · exact List.forall_mem_map.2 fun t _ => arises_bare t
  | ofDimensions h =>
    exact .ofDimensions ((map_bare_ofDimensions _ _).symm.trans (map_eq_ok_iff.2 ⟨_, h, rfl⟩))
  | ofSpecs h =>
    exact .ofSpecs ((map_bare_ofSpecs _ _).symm.trans (map_eq_ok_iff.2 ⟨_, h, rfl⟩))
  | loaded h =>
    obtain ⟨grid, hgrid, rfl⟩ := Option.map_eq_some_iff.1 h
    exact .loaded ((map_bare_decode _).symm.trans (Option.map_eq_some_iff.2 ⟨_, hgrid, rfl⟩))
  | after op _ ih =>
    rw [CachedGrid.grid_after]
    exact ih.after op

/-- The reachable bare grids are those of the reachable grids. -/
theorem reachable_iff {g : BareGrid} :
    g.Reachable ↔ ∃ cached : CachedGrid, cached.Reachable ∧ cached.grid.bare = g := by
  constructor
  · exact Reachable.exists_bare
  · rintro ⟨cached, hcached, rfl⟩
    exact reachable_bare hcached

/-! ## Bounds -/

/-- All tracks of the grid and all tracks of its components are in bounds, and its groups are two
indices or more, ascending. -/
structure InBounds (g : BareGrid) : Prop where
  tracks : ∀ axis, ∀ t ∈ g.tracks axis, t.InBounds
  overrides : ∀ e ∈ g.components, ∀ axis, ∀ t ∈ (e.2.along axis).override, t.InBounds
  groups : ∀ axis, ∀ group ∈ g.groups axis, 2 ≤ group.length ∧ group.Pairwise (· < ·)

theorem inBounds_bare (g : Grid) : g.bare.InBounds := by
  constructor
  · intro axis
    rw [tracks_bare]
    exact List.forall_mem_map.2 fun t _ => BareTrack.inBounds_bare t
  · intro e he axis t ht
    obtain ⟨entry, -, rfl⟩ := List.mem_map.1 he
    rw [Entry.bare, PerAxis.along_map] at ht
    obtain ⟨track, -, rfl⟩ := Option.map_eq_some_iff.1 ht
    exact BareTrack.inBounds_bare track
  · intro axis
    rw [groups_bare]
    exact List.forall_mem_map.2 fun group _ => ⟨group.two_le, group.ascending⟩

theorem Reachable.inBounds {g : BareGrid} (h : g.Reachable) : g.InBounds := by
  obtain ⟨cached, -, rfl⟩ := h.exists_bare
  exact inBounds_bare cached.grid

/-- Tracks weigh at most as many percent as there are hundreds of them. -/
theorem weightSum_le (g : Grid) (axis : Axis) : g.weightSum axis ≤ 100 * g.count axis := by
  have hle : ∀ weight ∈ (g.tracks axis).map Track.weight, weight ≤ 100 :=
    List.forall_mem_map.2 fun t _ => t.weight_le
  have hsum := List.sum_le_card_nsmul _ _ hle
  rw [List.length_map] at hsum
  exact hsum.trans_eq (Nat.mul_comm _ _)

/-- **Values are in bounds on every way.** What is made without proofs is the same as with them, and
it is what is in bounds; so are the grids that come of it, and everything in them is in bounds. So
the weights of an axis add up to a hundred for each track at most, and no track gets more than the
space that is shared out by them: no share is larger, and no size that 32 bits hold becomes larger
by more. -/
theorem bounds_on_every_route :
    RoutesAgree ∧
      (∀ t : BareTrack, t.Arises ↔ t.InBounds) ∧
      (∀ l, BareGroup.Arises l ↔ 2 ≤ l.length ∧ l.Pairwise (· < ·)) ∧
      (∀ g : BareGrid,
        g.Reachable ↔ ∃ cached : CachedGrid, cached.Reachable ∧ cached.grid.bare = g) ∧
      (∀ g : BareGrid, g.Reachable → g.InBounds) ∧
      ∀ g : CachedGrid, g.Reachable → ∀ axis, ∃ weights,
        (g.answer (.totalWeight axis)).1 = .ok weights ∧ weights ≤ 100 * g.grid.count axis ∧
          ∀ (container : Int) (sizes : List Int),
            let space := container - total sizes
            0 < space → (∀ i, space * weightAt (g.grid.tracks axis) i / weights ≤ space) ∧
              ∃ grown, (g.answer (.addWeights axis container sizes)).1 = .ok grown ∧
                ∀ i, Representable (sizes.getD i 0) →
                  grown.getD i 0 ≤ sizes.getD i 0 + space := by
  refine ⟨routesAgree, fun _ => BareTrack.arises_iff_inBounds,
    fun _ => BareGroup.arises_iff_ascending, fun _ => reachable_iff, fun _ => Reachable.inBounds,
    fun g hg axis => ?_⟩
  refine ⟨g.grid.weightSum axis, hg.answer_eq_scan _, weightSum_le g.grid axis, ?_⟩
  intro container sizes space hspace
  refine ⟨fun i => ?_, _, hg.answer_eq_scan _, fun i hsize => ?_⟩
  · exact share_le hspace.le (weightAt_le_sum (g.grid.tracks axis) i)
  · have hweights : ((g.grid.tracks axis).map Track.weight).sum ≤ g.grid.weightSum axis := le_rfl
    exact (getD_shareOut_le hweights hsize).trans_eq (congrArg _ (max_eq_left hspace.le))

/-- A persisted grid of two columns with a group, and with a component that has its own track. -/
def persistedPair : Value :=
  .object [("columns", .list [.text "full/preferred/30", .text "none(5)/100"]),
    ("rows", .list [.text "40"]), ("column_groups", .list [.list [.int 1, .int 0]]),
    ("components", .list [.list [.int 7, .object [("column", .int 0), ("row", .int 0),
      ("span_x", .int 1), ("span_y", .int 1), ("column_constraints", .text "minimum(3px)/90")]]])]

/-- It is loaded in bounds, and of the 130 pixels that are left in a container no column gets more
than there are. -/
theorem bounds_of_persistedPair :
    ∃ g : CachedGrid, Persisted.decode persistedPair = some g ∧ g.grid.bare.InBounds ∧
      (g.answer (.totalWeight .horizontal)).1 = .ok 130 ∧ 130 ≤ 100 * g.grid.count .horizontal ∧
        ∃ grown, (g.answer (.addWeights .horizontal 200 [50, 20])).1 = .ok grown ∧
          ∀ i, grown.getD i 0 ≤ [50, 20].getD i 0 + 130 := by
  have htotal : ((Persisted.decode persistedPair : Option CachedGrid).map fun g =>
      (g.answer (.totalWeight .horizontal)).1) = some (.ok 130) := by decide +kernel
  obtain ⟨g, hg, htotal⟩ := Option.map_eq_some_iff.1 htotal
  have hreachable : g.Reachable := .loaded hg
  obtain ⟨-, -, -, hiff, hbounds, hweights⟩ := bounds_on_every_route
  obtain ⟨weights, hanswer, hle, hshares⟩ := hweights g hreachable .horizontal
  obtain rfl : 130 = weights := Except.ok.inj (htotal.symm.trans hanswer)
  obtain ⟨-, grown, hgrown, hcells⟩ := hshares 200 [50, 20] (by decide)
  refine ⟨g, hg, hbounds _ ((hiff _).2 ⟨g, hreachable, rfl⟩), htotal, hle, grown, hgrown,
    fun i => ?_⟩
  refine hcells i ?_
  match i with
  | 0 | 1 => decide
  | i + 2 => exact ⟨by simp, by simp⟩

end BareGrid

end GridLayout

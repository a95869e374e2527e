import GridLayout.Placement.Basic
import GridLayout.Track.Reader
import GridLayout.TrackGroup

/-!
# Grids

A grid is the description that a layout is computed from: the tracks and groups of each axis, the
components with their placements in the order of their registration, and whether the tracks may
shrink to the minimum sizes of their components. It is plain data; nothing in it is checked before
sizes are computed.

* `Grid.ofTracks` and `Grid.ofSpecs` make grids without components.
* `Grid.add`, `Grid.remove` and `Grid.placement?` treat the components as an ordered map.
-/

namespace GridLayout

/-- The tracks of one axis and the groups among them. -/
structure Lane where
  tracks : List Track
  groups : List TrackGroup
deriving DecidableEq

structure Grid where
  lanes : PerAxis Lane
  components : List Entry
  canShrink : Bool
deriving DecidableEq

namespace Grid

/-! ## Tracks and groups -/

/-- A grid of the given columns and rows, of which there must be some. -/
def ofTracks (columns rows : List Track) : Except LayoutError Grid :=
  if columns.isEmpty then .error (.argument .noColumns)
  else if rows.isEmpty then .error (.argument .noRows)
  else .ok ⟨⟨⟨columns, []⟩, ⟨rows, []⟩⟩, [], true⟩

/-- A grid of so many usual columns and rows. -/
def ofDimensions (columns rows : Nat) : Except LayoutError Grid :=
  if columns = 0 ∨ rows = 0 then .error (.argument (.emptyDimensions columns rows))
  else ofTracks (List.replicate columns .defaultColumn) (List.replicate rows .defaultRow)

/-- A grid of two lists of track specifications. Columns fill and rows are centred unless they say
otherwise. -/
def ofSpecs (columns rows : String) : Except LayoutError Grid := do
  let columns ← Track.readList columns.toList .fill
  let rows ← Track.readList rows.toList .center
  ofTracks columns rows

/-- The tracks of an axis. -/
def tracks (g : Grid) (axis : Axis) : List Track := (g.lanes.along axis).tracks

/-- The groups of an axis. -/
def groups (g : Grid) (axis : Axis) : List TrackGroup := (g.lanes.along axis).groups

/-- The number of tracks of an axis. -/
def count (g : Grid) (axis : Axis) : Nat := (g.tracks axis).length

def track (g : Grid) (axis : Axis) (index : Nat) : Except LayoutError Track :=
  match (g.tracks axis)[index]? with
  | some track => .ok track
  | none => .error (.outOfBounds index (g.count axis))

/-- Replace a track. -/
def setTrack (g : Grid) (axis : Axis) (index : Nat) (track : Track) : Except LayoutError Grid :=
  if index < g.count axis then
    .ok { g with
      lanes := g.lanes.modify axis fun lane => { lane with tracks := lane.tracks.set index track } }
  else .error (.outOfBounds index (g.count axis))

/-- Add a group; its indices are not checked here. -/
def addGroup (g : Grid) (axis : Axis) (group : TrackGroup) : Grid :=
  { g with lanes := g.lanes.modify axis fun lane => { lane with groups := lane.groups ++ [group] } }

/-! ## Components -/

/-- Put an entry at the end, or in the place of the first one of the same component. -/
def register (entry : Entry) : List Entry → List Entry
  | [] => [entry]
  | e :: rest => if e.id = entry.id then entry :: rest else e :: register entry rest

/-- Register a component, or move it if it is registered. -/
def add (g : Grid) (id : ComponentId) (placement : Placement) : Grid :=
  { g with components := register ⟨id, placement⟩ g.components }

/-- Whether the component is registered. -/
def contains (g : Grid) (id : ComponentId) : Bool := g.components.any fun e => e.id == id

def remove (g : Grid) (id : ComponentId) : Grid :=
  { g with components := g.components.filter fun e => e.id != id }

def clear (g : Grid) : Grid := { g with components := [] }

/-- The placement of a component. -/
def placement? (g : Grid) (id : ComponentId) : Option Placement :=
  (g.components.find? fun e => e.id == id).map Entry.placement

/-- The first component that starts in a cell. -/
def componentAt? (g : Grid) (column row : Nat) : Option ComponentId :=
  (g.components.find? fun e => e.placement.corner == (column, row)).map Entry.id

end Grid

end GridLayout

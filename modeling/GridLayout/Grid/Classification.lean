import GridLayout.Grid.Basic

/-!
# Components by the tracks they cover

Sizes are computed from the components of a single track first and from those that span several
tracks second. A `Classification` sorts the components accordingly along each axis. It exists only
for a grid whose placements fit: each has at least one track along each axis, stays inside the
grid, targets a track of the grid, and has a start cell of its own.

* `Grid.checkEntry` says what is wrong with one placement, in a fixed order.
* `Grid.classify` goes through the components in the order of their registration and fails with
  the first fault.
-/

namespace GridLayout

/-- Components by their place in the registry: for each track those of a single track that start
there, and those of several tracks. All lists ascend. -/
structure Classification where
  single : PerAxis (List (List Nat))
  spanning : PerAxis (List Nat)
deriving DecidableEq

namespace Classification

/-- No components, for so many columns and rows. -/
def empty (columns rows : Nat) : Classification :=
  ⟨⟨List.replicate columns [], List.replicate rows []⟩, ⟨[], []⟩⟩

/-- Sort in a component along one axis. -/
def insertAlong (c : Classification) (axis : Axis) (place : Nat) (slot : Slot) : Classification :=
  if slot.span = 1 then
    { c with
      single := c.single.modify axis fun tracks => tracks.modify slot.start fun l => l ++ [place] }
  else { c with spanning := c.spanning.modify axis fun l => l ++ [place] }

/-- Sort in the component at a place of the registry. -/
def insert (c : Classification) (place : Nat) (p : Placement) : Classification :=
  (c.insertAlong .horizontal place p.horizontal).insertAlong .vertical place p.vertical

/-- The places of the components of a single track. -/
def singleAt (c : Classification) (axis : Axis) (index : Nat) : List Nat :=
  ((c.single.along axis)[index]?).getD []

end Classification

namespace Grid

/-- The slot of an entry ends inside the grid. -/
def checkInside (g : Grid) (e : Entry) (axis : Axis) : Except LayoutError Unit :=
  let slot := e.placement.along axis
  if g.count axis < slot.stop then
    .error (.state (.outside axis e.id slot.start slot.span (g.count axis)))
  else .ok ()

/-- The target of an entry, if any, is a track of the grid. -/
def checkTarget (g : Grid) (e : Entry) (axis : Axis) : Except LayoutError Unit :=
  match (e.placement.along axis).target with
  | some target =>
    if g.count axis ≤ target then .error (.state (.targetOutside axis e.id target (g.count axis)))
    else .ok ()
  | none => .ok ()

/-- No earlier entry starts in the same cell. -/
def checkStart (earlier : List Entry) (e : Entry) : Except LayoutError Unit :=
  match earlier.find? fun other => other.placement.corner == e.placement.corner with
  | some other =>
    .error (.state (.sharedStart other.id e.id e.placement.horizontal.start
      e.placement.vertical.start))
  | none => .ok ()

/-- An entry that comes after the given ones fits into the grid. -/
def checkEntry (g : Grid) (earlier : List Entry) (e : Entry) : Except LayoutError Unit := do
  if e.placement.horizontal.span = 0 ∨ e.placement.vertical.span = 0 then
    throw (.state (.emptySpan e.id e.placement.horizontal.span e.placement.vertical.span))
  g.checkInside e .horizontal
  g.checkInside e .vertical
  g.checkTarget e .horizontal
  g.checkTarget e .vertical
  checkStart earlier e

/-- Check and sort in the remaining entries after the earlier ones. -/
def classifyAfter (g : Grid) (earlier : List Entry) (c : Classification) :
    List Entry → Except LayoutError Classification
  | [] => .ok c
  | e :: rest => do
    g.checkEntry earlier e
    classifyAfter g (earlier ++ [e]) (c.insert earlier.length e.placement) rest

/-- The classification of the components, or the first fault among them. -/
def classify (g : Grid) : Except LayoutError Classification :=
  g.classifyAfter [] (.empty (g.count .horizontal) (g.count .vertical)) g.components

end Grid

end GridLayout

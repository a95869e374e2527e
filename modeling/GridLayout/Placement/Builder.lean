import GridLayout.Error
import GridLayout.Placement.Basic

/-!
# Building placements step by step

A `PlacementBuilder` collects the properties of one placement. An empty span is remembered and
reported by `create`, which clears all properties but remembers the placement it made: the next
component can be put right after it.
-/

namespace GridLayout

structure PlacementBuilder where
  position : Option (Nat × Nat)
  spans : PerAxis Nat
  targets : PerAxis (Option Nat)
  overrides : PerAxis (Option Track)
  fault : Option ArgumentFault
  previous : Option Placement
deriving DecidableEq

namespace PlacementBuilder

/-- A builder with nothing set that remembers the given placement. -/
def after (previous : Option Placement) : PlacementBuilder :=
  ⟨none, .both 1, .both none, .both none, none, previous⟩

/-- A builder with nothing set. -/
def new : PlacementBuilder := after none

instance : Inhabited PlacementBuilder := ⟨new⟩

/-- Forget all but the placement made last. -/
def reset (b : PlacementBuilder) : PlacementBuilder := after b.previous

/-- Set the cell in which the component starts. -/
def setPosition (b : PlacementBuilder) (column row : Nat) : PlacementBuilder :=
  { b with position := some (column, row) }

/-- The cell right of a placement in its first row. -/
def nextCell : Option Placement → Nat × Nat
  | some p => (p.horizontal.stop, p.vertical.start)
  | none => (0, 0)

/-- Start right of the placement made last, or in the first cell. -/
def afterPrevious (b : PlacementBuilder) : PlacementBuilder :=
  { b with position := some (nextCell b.previous) }

/-- Set the number of tracks along one axis, which must not be zero. -/
def setSpan (b : PlacementBuilder) (axis : Axis) (span : Nat) : PlacementBuilder :=
  if span = 0 then { b with fault := b.fault.or (some .emptySpan) }
  else { b with spans := b.spans.modify axis fun _ => span }

def setTarget (b : PlacementBuilder) (axis : Axis) (target : Nat) : PlacementBuilder :=
  { b with targets := b.targets.modify axis fun _ => some target }

def setOverride (b : PlacementBuilder) (axis : Axis) (track : Track) : PlacementBuilder :=
  { b with overrides := b.overrides.modify axis fun _ => some track }

/-- The slot of the properties along one axis. -/
def slot (b : PlacementBuilder) (start : Nat) (axis : Axis) : Slot :=
  ⟨start, b.spans.along axis, b.targets.along axis, b.overrides.along axis⟩

/-- The placement of the properties set so far. -/
def build (b : PlacementBuilder) : Except LayoutError Placement :=
  match b.fault, b.position with
  | some fault, _ => .error (.argument fault)
  | none, none => .error (.state .noPosition)
  | none, some (column, row) => .ok ⟨b.slot column .horizontal, b.slot row .vertical⟩

/-- The placement of the properties set so far, and the builder for the next one. A failure leaves
the placement made last as it is. -/
def create (b : PlacementBuilder) : Except LayoutError Placement × PlacementBuilder :=
  match b.build with
  | .ok p => (.ok p, after (some p))
  | .error e => (.error e, b.reset)

/-- Start in a cell and create. -/
def createAt (b : PlacementBuilder) (column row : Nat) :
    Except LayoutError Placement × PlacementBuilder :=
  (b.setPosition column row).create

end PlacementBuilder

end GridLayout

import GridLayout.Track.Basic

/-!
# Placements

A placement says which cells of a grid a component covers, by one `Slot` along each axis: a run of
neighbouring tracks. The component is aligned and measured by the track it starts in, unless the
slot names a target track instead, or a track of its own.
-/

namespace GridLayout

/-- The tracks that a component covers along one axis. -/
structure Slot where
  start : Nat
  span : Nat
  target : Option Nat
  override : Option Track
deriving DecidableEq

namespace Slot

/-- A single track. -/
def single (start : Nat) : Slot := ⟨start, 1, none, none⟩

/-- The first track after the slot. -/
def stop (s : Slot) : Nat := s.start + s.span

end Slot

/-- The slots of a component. -/
abbrev Placement : Type := PerAxis Slot

namespace Placement

/-- A single cell. -/
def single (column row : Nat) : Placement := ⟨.single column, .single row⟩

/-- The column and the row in which the component starts. -/
def corner (p : Placement) : Nat × Nat := (p.horizontal.start, p.vertical.start)

/-- The fields that are set, in the words of the persisted form. -/
def toText (p : Placement) : String :=
  let field {α : Type} (name : String) (text : α → String) : Option α → String
    | some a => name ++ text a
    | none => ""
  s!"col = {p.horizontal.start} row = {p.vertical.start} spanx = {p.horizontal.span} " ++
    s!"spany = {p.vertical.span}" ++
    field " targetCol = " toString p.horizontal.target ++
    field " targetRow = " toString p.vertical.target ++
    field " colConstr = " Track.toSpec p.horizontal.override ++
    field " rowConstr = " Track.toSpec p.vertical.override

end Placement

/-- A component with its placement. -/
structure Entry where
  id : ComponentId
  placement : Placement
deriving DecidableEq

end GridLayout

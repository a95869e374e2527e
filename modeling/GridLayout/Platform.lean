import GridLayout.Component

/-!
# A table of component sizes

A `Platform` stands in for a user interface: it knows the sizes of components from a table and
records the rectangles they are given. A component that is not in the table measures nothing.
-/

namespace GridLayout

/-- The metrics of a screen, with one font size for both axes. -/
structure Screen where
  resolution : Nat
  fontSize : Binary64
deriving DecidableEq

namespace Screen

def default : Screen := ⟨96, .ofInt 12⟩

def metrics (s : Screen) : Metrics := ⟨s.resolution, fun _ => s.fontSize⟩

end Screen

structure Platform where
  screen : Screen
  sizes : List (ComponentId × ComponentSizes)
  bounds : List (ComponentId × Rect)
deriving DecidableEq

namespace Platform

/-- Without components. -/
def new (screen : Screen) : Platform := ⟨screen, [], []⟩

/-- Put a value for a component into a table, in place of an earlier one. -/
def put {α : Type} (id : ComponentId) (a : α) : List (ComponentId × α) → List (ComponentId × α)
  | [] => [(id, a)]
  | (other, b) :: rest => if other = id then (id, a) :: rest else (other, b) :: put id a rest

/-- The value for a component in a table. -/
def get? {α : Type} (id : ComponentId) (table : List (ComponentId × α)) : Option α :=
  (table.find? fun entry => entry.1 == id).map Prod.snd

def insert (p : Platform) (id : ComponentId) (sizes : ComponentSizes) : Platform :=
  { p with sizes := put id sizes p.sizes }

def sizes? (p : Platform) (id : ComponentId) : Option ComponentSizes := get? id p.sizes

/-- The rectangle that a component was given last. -/
def bounds? (p : Platform) (id : ComponentId) : Option Rect := get? id p.bounds

def setBounds (p : Platform) (id : ComponentId) (r : Rect) : Platform :=
  { p with bounds := put id r p.bounds }

/-- Give several components their rectangles, one after another. -/
def setAllBounds (p : Platform) (bounds : List (ComponentId × Rect)) : Platform :=
  bounds.foldl (fun p entry => p.setBounds entry.1 entry.2) p

/-- All rectangles by ascending component. -/
def allBounds (p : Platform) : List (ComponentId × Rect) :=
  p.bounds.mergeSort fun a b => a.1.value ≤ b.1.value

def clearBounds (p : Platform) : Platform := { p with bounds := [] }

/-- The extent of a component in a pass. -/
def extent (p : Platform) (pass : Pass) (id : ComponentId) (axis : Axis) : Int :=
  let sizes := (p.sizes? id).getD .zero
  match pass with
  | .preferred => sizes.preferred.along axis
  | .minimum => sizes.minimum.along axis

/-- What a layout can ask of the platform. -/
def measures (p : Platform) : Measures :=
  ⟨p.screen.metrics, p.extent .preferred, p.extent .minimum⟩

end Platform

end GridLayout

import GridLayout.Binary64.Basic
import GridLayout.Geometry

/-!
# Components and their measures

A layout never looks into a component. It knows it by its `ComponentId` and asks `Measures` for
its extents and for the metrics that turn a length into pixels.
-/

namespace GridLayout

/-- The name under which a layout manages a component. -/
structure ComponentId where
  value : Nat
deriving DecidableEq, Repr

/-- A number sign before the number. -/
def ComponentId.toText (id : ComponentId) : String := "#" ++ toString id.value

/-- Preferred and minimum size of a component. -/
structure ComponentSizes where
  preferred : Size
  minimum : Size
deriving DecidableEq, Repr

namespace ComponentSizes

/-- The sizes of a component that does not shrink. -/
def fixed (s : Size) : ComponentSizes := ⟨s, s⟩

def zero : ComponentSizes := fixed .zero

instance : Inhabited ComponentSizes := ⟨zero⟩

end ComponentSizes

/-- The pixels per inch, and the font size along each axis. -/
structure Metrics where
  resolution : Nat
  fontSize : Axis → Binary64

/-- What a layout can ask about its container and its components. -/
structure Measures where
  metrics : Metrics
  preferred : ComponentId → Axis → Int
  minimum : ComponentId → Axis → Int

/-- Whether components are measured by their preferred or by their minimum sizes. -/
inductive Pass where
  | preferred
  | minimum
deriving DecidableEq, Repr

/-- The extent of a component in a pass. -/
def Measures.extent (m : Measures) : Pass → ComponentId → Axis → Int
  | .preferred => m.preferred
  | .minimum => m.minimum

end GridLayout

import GridLayout.Description.Basic
import GridLayout.Value.JsonWriter

/-!
# Reports

What can be told of a described layout: its preferred and minimum size, or the place of every
component in a container. A report has a text for people and a tree for programs.

* `Description.sizeReport` and `Description.layoutReport` compute reports, `Description.check` finds
  out whether that is possible.
-/

namespace GridLayout

structure SizeReport where
  preferred : Size
  minimum : Size
deriving DecidableEq

/-- The place of every component by its name, in the order of the components of the layout. -/
structure LayoutReport where
  container : Size
  sizes : PerAxis (List Int)
  components : List (String × Rect)
deriving DecidableEq

/-! ## Texts -/

def Size.toText (s : Size) : String := s!"{s.width}x{s.height}"

def SizeReport.toText (r : SizeReport) : String :=
  "preferred: " ++ r.preferred.toText ++ "\nminimum:   " ++ r.minimum.toText

/-- Spaces after a name up to a number of characters. -/
def padded (width : Nat) (name : String) : String :=
  name ++ String.ofList (List.replicate (width - name.length) ' ')

namespace LayoutReport

/-- The names are padded to the number of bytes of the longest. -/
def nameWidth (r : LayoutReport) : Nat :=
  (r.components.map fun c => c.1.utf8ByteSize).foldl max 0

def componentLine (width : Nat) (name : String) (r : Rect) : String :=
  "\n" ++ padded width name ++ s!"  x={r.x} y={r.y} w={r.width} h={r.height}"

def toText (r : LayoutReport) : String :=
  let numbers (l : List Int) : String := " ".intercalate (l.map toString)
  "container: " ++ r.container.toText ++ "\ncolumns:   " ++ numbers r.sizes.horizontal ++
    "\nrows:      " ++ numbers r.sizes.vertical ++
    String.join (r.components.map fun (name, bounds) => componentLine r.nameWidth name bounds)

end LayoutReport

/-! ## Trees -/

def Size.toValue (s : Size) : Value := .object [("width", .int s.width), ("height", .int s.height)]

def SizeReport.toValue (r : SizeReport) : Value :=
  .object [("preferred", r.preferred.toValue), ("minimum", r.minimum.toValue)]

namespace LayoutReport

def componentValue (name : String) (r : Rect) : Value :=
  .object [("name", .text name), ("x", .int r.x), ("y", .int r.y), ("width", .int r.width),
    ("height", .int r.height)]

def toValue (r : LayoutReport) : Value :=
  .object [("container", r.container.toValue),
    ("column_sizes", .list (r.sizes.horizontal.map .int)),
    ("row_sizes", .list (r.sizes.vertical.map .int)),
    ("components", .list (r.components.map fun (name, bounds) => componentValue name bounds))]

end LayoutReport

/-! ## Computing reports -/

namespace Description

def sizeReport (d : Description) : Except DescriptionFault SizeReport := do
  let p ← d.prepare
  let (preferred, layout) := p.layout.preferredSize p.platform.measures
  let preferred ← preferred.mapError .layout
  let minimum ← (layout.minimumSize p.platform.measures).1.mapError .layout
  return ⟨preferred, minimum⟩

/-- The insets of the container, if there is one. -/
def insets (d : Description) : Insets := (d.container.map Container.insets).getD .zero

/-- The size of the container along each axis: as asked for, or as described, or the preferred
size and the insets. -/
def containerSize (d : Description) (width height : Option Int) (preferred : Size) : Size :=
  let described := d.container.map Container.size
  ⟨(width.or (described.map Size.width)).getD (wrap (preferred.width + d.insets.horizontal)),
    (height.or (described.map Size.height)).getD (wrap (preferred.height + d.insets.vertical))⟩

def layoutReport (d : Description) (width height : Option Int) :
    Except DescriptionFault LayoutReport := do
  let p ← d.prepare
  let (preferred, layout) := p.layout.preferredSize p.platform.measures
  let container := d.containerSize width height (← preferred.mapError .layout)
  let arrangement ← (layout.perform p.platform d.insets container).1.mapError .layout
  return ⟨container, arrangement.sizes, arrangement.bounds.map fun (id, r) => (p.name id, r)⟩

/-- The number of components, if the layout can be computed. -/
def check (d : Description) : Except DescriptionFault Nat := do
  let p ← d.prepare
  (p.layout.onGrid fun g => g.run fun grid => grid.validate).1.mapError .layout
  return p.names.length

end Description

end GridLayout

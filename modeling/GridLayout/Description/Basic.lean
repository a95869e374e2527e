import GridLayout.Layout

/-!
# Described layouts

A `Description` is what a file says about a layout: the screen, the container, the kind of layout
with its properties, and the components with their names, sizes and cells. Preparing it makes the
layout and a platform that knows the sizes of all components, which are numbered in order.
-/

namespace GridLayout

/-- The container of a layout; `size` is that of the container with its insets. -/
structure Container where
  size : Size
  insets : Insets
deriving DecidableEq

/-- The kinds of layouts with their properties as they are written. -/
inductive LayoutKind where
  | free (columns rows : String) (columnGroups rowGroups : List String)
  | border (margin gap : Length)
  | buttons (margin gap : Length) (alignment : ButtonAlignment)
deriving DecidableEq

/-- A component: its sizes, and where it goes as far as the kind of layout asks for it. -/
structure ComponentDescription where
  name : String
  preferred : Size
  minimumWidth : Option Int
  minimumHeight : Option Int
  column : Option Nat
  row : Option Nat
  spanX : Nat
  spanY : Nat
  region : Option String
deriving DecidableEq

structure Description where
  screen : Screen
  container : Option Container
  canShrink : Bool
  layout : LayoutKind
  components : List ComponentDescription
deriving DecidableEq

/-- Why a description makes no layout. -/
inductive DescriptionFault where
  | layout (error : LayoutError)
  | noCell (name : String)
deriving DecidableEq

def DescriptionFault.message : DescriptionFault → String
  | layout error => "layout error: " ++ error.message
  | noCell name =>
    "invalid description: component " ++ Text.quote name ++ " needs a column and a row"

/-- A minimum that is not given is the preferred size. -/
def ComponentDescription.sizes (c : ComponentDescription) : ComponentSizes :=
  ⟨c.preferred, ⟨c.minimumWidth.getD c.preferred.width, c.minimumHeight.getD c.preferred.height⟩⟩

/-- A layout with a platform for it and the names of its components by their numbers. -/
structure Prepared where
  layout : Layout
  platform : Platform
  names : List String

/-- The name of a component. -/
def Prepared.name (p : Prepared) (id : ComponentId) : String := (p.names[id.value]?).getD "?"

namespace Description

/-- The components with their numbers. -/
def numbered (d : Description) : List (ComponentId × ComponentDescription) :=
  d.components.zipIdx.map fun (c, i) => (⟨i⟩, c)

/-- A platform that knows the sizes of all components. -/
def platform (d : Description) : Platform :=
  d.numbered.foldl (fun p (id, c) => p.insert id c.sizes) (.new d.screen)

/-- The placement of a component in a free layout. -/
def placement (c : ComponentDescription) : Except DescriptionFault Placement :=
  match c.column, c.row with
  | some column, some row =>
    let b := PlacementBuilder.new.setPosition column row
    ((b.setSpan .horizontal c.spanX).setSpan .vertical c.spanY).build.mapError .layout
  | _, _ => .error (.noCell c.name)

/-- Add the groups of an axis to a grid. -/
def addGroups (axis : Axis) (groups : List String) (g : Grid) : Except LayoutError Grid :=
  groups.foldlM (fun g text => return g.addGroup axis (← TrackGroup.ofText text)) g

/-- The grid of a free layout. -/
def freeGrid (d : Description) (columns rows : String) (columnGroups rowGroups : List String) :
    Except DescriptionFault Grid := do
  let grid ← Except.mapError .layout do
    let grid ← Grid.ofSpecs columns rows
    addGroups .vertical rowGroups (← addGroups .horizontal columnGroups grid)
  d.numbered.foldlM (fun g (id, c) => return g.add id (← placement c))
    { grid with canShrink := d.canShrink }

/-- The border layout; a component without a region goes into the centre. -/
def borderLayout (d : Description) (margin gap : Length) : Except LayoutError BorderLayout :=
  d.numbered.foldlM
    (fun b (id, c) => b.addNamed id (c.region.getD BorderRegion.center.name))
    (.ofProperties ⟨.uniform margin gap, d.canShrink, []⟩)

/-- The button bar. -/
def buttonBar (d : Description) (margin gap : Length) (alignment : ButtonAlignment) : ButtonBar :=
  d.numbered.foldl (fun b (id, _) => b.add id)
    (.ofProperties ⟨ButtonBarProperties.uniformSpacing margin gap, alignment, d.canShrink, []⟩)

/-- The layout of the description. -/
def makeLayout (d : Description) : Except DescriptionFault Layout :=
  match d.layout with
  | .free columns rows columnGroups rowGroups => do
    return .free (.ofGrid (← d.freeGrid columns rows columnGroups rowGroups))
  | .border margin gap =>
    ((d.borderLayout margin gap).map Layout.border).mapError DescriptionFault.layout
  | .buttons margin gap alignment => .ok (.buttons (d.buttonBar margin gap alignment))

/-- The layout of the description with all that it needs. -/
def prepare (d : Description) : Except DescriptionFault Prepared := do
  return ⟨← d.makeLayout, d.platform, d.components.map ComponentDescription.name⟩

end Description

end GridLayout

import GridLayout.Border.Basic
import GridLayout.ButtonBar
import GridLayout.Platform

/-!
# Layouts

The three kinds of layouts share one interface: each is computed on a grid, which a free layout is
and the other two make from their properties when it is first needed.

* `Layout.onGrid` runs an operation on the grid and keeps what it leaves behind.
* `Layout.preferredSize`, `Layout.minimumSize` and `Layout.perform` are computed through it.
-/

namespace GridLayout

inductive Layout where
  | free (grid : CachedGrid)
  | border (layout : BorderLayout)
  | buttons (bar : ButtonBar)

namespace Layout

/-- The grid on which the layout is computed. -/
def ensureGrid : Layout → Except LayoutError CachedGrid
  | .free g => .ok g
  | .border b => b.ensureGrid
  | .buttons b => b.ensureGrid

/-- The layout with its grid replaced. -/
def withGrid (l : Layout) (g : CachedGrid) : Layout :=
  match l with
  | .free _ => .free g
  | .border b => .border { b with grid := some g }
  | .buttons b => .buttons { b with grid := some g }

/-- Run an operation on the grid. A grid that cannot be made is left unmade. -/
def onGrid {α : Type} (l : Layout) (f : CachedGrid → Except LayoutError α × CachedGrid) :
    Except LayoutError α × Layout :=
  match l.ensureGrid with
  | .error e => (.error e, l)
  | .ok g =>
    let (result, g) := f g
    (result, l.withGrid g)

/-- Kept grids are not compared; layouts of different kinds differ. -/
def equal : Layout → Layout → Bool
  | .free a, .free b => a == b
  | .border a, .border b => a == b
  | .buttons a, .buttons b => a == b
  | _, _ => false

instance : BEq Layout := ⟨equal⟩

/-- The size at which every component has its preferred size. -/
def preferredSize (l : Layout) (m : Measures) : Except LayoutError Size × Layout :=
  l.onGrid fun g => g.run fun grid => grid.preferredSize m

/-- The smallest size of the layout. -/
def minimumSize (l : Layout) (m : Measures) : Except LayoutError Size × Layout :=
  l.onGrid fun g => g.run fun grid => grid.minimumSize m

/-- Lay out the components in a container and give them their rectangles. A failure gives none. -/
def perform (l : Layout) (p : Platform) (insets : Insets) (container : Size) :
    Except LayoutError Arrangement × Layout × Platform :=
  match l.onGrid fun g => g.run fun grid => grid.arrange p.measures insets container with
  | (.ok a, l) => (.ok a, l, p.setAllBounds a.bounds)
  | (.error e, l) => (.error e, l, p)

end Layout

end GridLayout

import GridLayout.Grid.Sizing

/-!
# Laying out a grid

From the sizes of the tracks follow their positions, and from those the rectangle of every
component. `Grid.arrange` computes all of it without touching anything else; handing the rectangles
to the components is left to the caller, so a failure hands out none.

* `Grid.align` places a component in the space of its cells along one axis.
* `Grid.arrange` lays out all components in a container.
-/

namespace GridLayout

/-- The result of laying out a grid. -/
structure Arrangement where
  sizes : PerAxis (List Int)
  positions : PerAxis (List Int)
  bounds : List (ComponentId × Rect)
deriving DecidableEq

/-- The position of every track: the first one at `start`, each next one where the one before
ends. -/
def positions (start : Int) : List Int → List Int
  | [] => []
  | size :: sizes => start :: positions (wrap (start + size)) sizes

/-- The largest index of a track that can be written. -/
def maxWritableIndex : Nat := Nat.pow 2 64 - 1

/-- Place an extent in the space that starts at `start`. -/
def Alignment.interval (alignment : Alignment) (start available size : Int) : Int × Int :=
  match alignment with
  | .fill => (start, available)
  | .leading => (start, size)
  | .center => (wrap (start + wrap (available - size) / 2), size)
  | .trailing => (wrap (start + available - size), size)

namespace Grid

/-- The position and the extent of a component along an axis, in cells of the given sizes of which
the first one it covers starts at `start`. A slot that leaves the sizes is out of bounds. -/
def align (g : Grid) (m : Measures) (axis : Axis) (e : Entry) (sizes : List Int) (start : Int) :
    Except LayoutError (Int × Int) :=
  let slot := e.placement.along axis
  if slot.stop ≤ sizes.length then
    .ok ((g.governing slot axis).alignment.interval start (wrap (slot.extent sizes))
      (g.claim m .preferred axis e))
  else .error (.outOfBounds (min slot.stop maxWritableIndex - 1) sizes.length)

/-- The rectangle of a component. -/
def bound (g : Grid) (m : Measures) (sizes positions : PerAxis (List Int)) (e : Entry) :
    Except LayoutError (ComponentId × Rect) := do
  let start (axis : Axis) : Int := (positions.along axis).getD (e.placement.along axis).start 0
  let x ← g.align m .horizontal e sizes.horizontal (start .horizontal)
  let y ← g.align m .vertical e sizes.vertical (start .vertical)
  return (e.id, .ofIntervals ⟨x, y⟩)

/-- Lay out all components in a container. The tracks take its size less the insets. -/
def arrange (g : Grid) (m : Measures) (insets : Insets) (container : Size) :
    CacheM Arrangement := do
  let content := insets.shrink container
  let columns ← g.sizesIn m .horizontal content.width
  let rows ← g.sizesIn m .vertical content.height
  let sizes : PerAxis (List Int) := ⟨columns, rows⟩
  let positions : PerAxis (List Int) := ⟨positions insets.left columns, positions insets.top rows⟩
  let bounds ← ExceptT.mk (pure (g.components.mapM (g.bound m sizes positions)))
  return ⟨sizes, positions, bounds⟩

/-! ## Sizes of the whole grid -/

/-- The size of all tracks together. -/
def totalSize (g : Grid) (m : Measures) (pass : Pass) : CacheM Size := do
  let columns ← g.groupedSizes m pass .horizontal
  let rows ← g.groupedSizes m pass .vertical
  return ⟨wrap (total columns), wrap (total rows)⟩

def preferredSize (g : Grid) (m : Measures) : CacheM Size := g.totalSize m .preferred

/-- The minimum size; that of a grid that may not shrink is its preferred size. -/
def minimumSize (g : Grid) (m : Measures) : CacheM Size :=
  g.totalSize m (if g.canShrink then .minimum else .preferred)

end Grid

end GridLayout

import GridLayout.Layout
import GridLayout.Persist.Basic

/-!
# Persisted forms of layouts

Structures are objects with one field for each property; lengths and tracks are their canonical
texts, groups the lists of their indices, names are written exactly. A grid is read as it is,
without checking that it fits together; what a layout has kept is not written.
-/

namespace GridLayout

open Persisted

/-! ## Names -/

instance : Persisted LengthUnit := .ofName LengthUnit.name LengthUnit.ofName?

instance : Persisted Alignment := .ofName Alignment.name Alignment.ofName?

instance : Persisted Sizing := .ofName Sizing.name Sizing.ofName?

instance : Persisted BorderRegion := .ofName BorderRegion.name BorderRegion.ofName?

instance : Persisted ButtonAlignment := .ofName ButtonAlignment.name ButtonAlignment.ofName?

/-! ## Canonical texts -/

instance : Persisted Length := .ofText Length.toText fun s => (Length.ofText s).toOption

instance : Persisted Track := .ofText Track.toSpec fun s => (Track.ofText s).toOption

instance : Persisted TrackGroup where
  encode g := encode g.indices
  decode v := do (TrackGroup.ofList (← decode v)).toOption

/-! ## Geometry and components -/

instance : Persisted ComponentId where
  encode id := encode id.value
  decode v := (decode v).map ComponentId.mk

instance : Persisted Size where
  encode s := .object [("width", encode s.width), ("height", encode s.height)]
  decode v := do return ⟨← required v "width", ← required v "height"⟩

instance : Persisted Rect where
  encode r := .object
    [("x", encode r.x), ("y", encode r.y), ("width", encode r.width), ("height", encode r.height)]
  decode v := do
    return ⟨← required v "x", ← required v "y", ← required v "width", ← required v "height"⟩

instance : Persisted Insets where
  encode i := .object
    [("left", encode i.left), ("top", encode i.top), ("right", encode i.right),
      ("bottom", encode i.bottom)]
  decode v := do
    return ⟨← required v "left", ← required v "top", ← required v "right", ← required v "bottom"⟩

instance : Persisted ComponentSizes where
  encode s := .object [("preferred", encode s.preferred), ("minimum", encode s.minimum)]
  decode v := do return ⟨← required v "preferred", ← required v "minimum"⟩

/-- A resolution has 32 bits. -/
def Screen.decodeResolution (v : Value) : Option Nat :=
  (intBetween? 0 4294967295 v).map Int.toNat

instance : Persisted Screen where
  encode s := .object [("resolution", encode s.resolution), ("font_size", encode s.fontSize)]
  decode v := do
    let resolution ← Screen.decodeResolution (← v.field? "resolution")
    return ⟨resolution, ← required v "font_size"⟩

/-! ## Grids -/

instance : Persisted Placement where
  encode p := .object (
    [("column", encode p.horizontal.start), ("row", encode p.vertical.start),
      ("span_x", encode p.horizontal.span), ("span_y", encode p.vertical.span)] ++
    optionalField "target_column" p.horizontal.target ++
    optionalField "target_row" p.vertical.target ++
    optionalField "column_constraints" p.horizontal.override ++
    optionalField "row_constraints" p.vertical.override)
  decode v := do
    let column ← required v "column"
    let row ← required v "row"
    let spanX ← required v "span_x"
    let spanY ← required v "span_y"
    let targetColumn ← optional v "target_column"
    let targetRow ← optional v "target_row"
    let columnOverride ← optional v "column_constraints"
    let rowOverride ← optional v "row_constraints"
    return ⟨⟨column, spanX, targetColumn, columnOverride⟩, ⟨row, spanY, targetRow, rowOverride⟩⟩

instance : Persisted Entry where
  encode e := encode (e.id, e.placement)
  decode v := (decode v).map fun (id, placement) => ⟨id, placement⟩

instance : Persisted Grid where
  encode g := .object
    [("columns", encode (g.tracks .horizontal)), ("rows", encode (g.tracks .vertical)),
      ("column_groups", encode (g.groups .horizontal)), ("row_groups", encode (g.groups .vertical)),
      ("components", encode g.components), ("can_shrink", encode g.canShrink)]
  decode v := do
    let columns ← required v "columns"
    let rows ← required v "rows"
    let columnGroups ← defaulted v "column_groups" []
    let rowGroups ← defaulted v "row_groups" []
    let components ← defaulted v "components" []
    let canShrink ← defaulted v "can_shrink" true
    return ⟨⟨⟨columns, columnGroups⟩, ⟨rows, rowGroups⟩⟩, components, canShrink⟩

instance : Persisted CachedGrid where
  encode g := encode g.grid
  decode v := (decode v).map CachedGrid.ofGrid

instance : Persisted Arrangement where
  encode a := .object
    [("column_sizes", encode a.sizes.horizontal), ("row_sizes", encode a.sizes.vertical),
      ("column_positions", encode a.positions.horizontal),
      ("row_positions", encode a.positions.vertical), ("bounds", encode a.bounds)]
  decode v := do
    let columnSizes ← required v "column_sizes"
    let rowSizes ← required v "row_sizes"
    let columnPositions ← required v "column_positions"
    let rowPositions ← required v "row_positions"
    let bounds ← required v "bounds"
    return ⟨⟨columnSizes, rowSizes⟩, ⟨columnPositions, rowPositions⟩, bounds⟩

/-! ## Layouts -/

/-- The lengths among the fields of a border layout, none by default. -/
def BorderSpacing.decode (v : Value) : Option BorderSpacing := do
  let length (name : String) : Option Length := defaulted v name .zero
  return ⟨← length "left_margin", ← length "top_margin", ← length "right_margin",
    ← length "bottom_margin", ← length "north_gap", ← length "west_gap", ← length "south_gap",
    ← length "east_gap"⟩

instance : Persisted BorderProperties where
  encode p := .object
    [("left_margin", encode p.spacing.leftMargin), ("top_margin", encode p.spacing.topMargin),
      ("right_margin", encode p.spacing.rightMargin),
      ("bottom_margin", encode p.spacing.bottomMargin),
      ("north_gap", encode p.spacing.northGap), ("west_gap", encode p.spacing.westGap),
      ("south_gap", encode p.spacing.southGap), ("east_gap", encode p.spacing.eastGap),
      ("can_shrink", encode p.canShrink), ("regions", encode p.regions)]
  decode v := do
    let canShrink ← defaulted v "can_shrink" true
    let regions ← defaulted v "regions" []
    return ⟨← BorderSpacing.decode v, canShrink, regions⟩

instance : Persisted BorderLayout where
  encode b := encode b.properties
  decode v := (decode v).map BorderLayout.ofProperties

/-- The lengths among the fields of a button bar. -/
def ButtonSpacing.decode (v : Value) : Option ButtonSpacing := do
  let margin (name : String) : Option Length := defaulted v name ButtonBarProperties.defaultMargin
  return ⟨← margin "left_margin", ← margin "right_margin", ← margin "top_margin",
    ← margin "bottom_margin", ← defaulted v "gap" ButtonBarProperties.defaultGap⟩

instance : Persisted ButtonBarProperties where
  encode p := .object
    [("left_margin", encode p.spacing.leftMargin), ("right_margin", encode p.spacing.rightMargin),
      ("top_margin", encode p.spacing.topMargin), ("bottom_margin", encode p.spacing.bottomMargin),
      ("gap", encode p.spacing.gap), ("alignment", encode p.alignment),
      ("can_shrink", encode p.canShrink), ("buttons", encode p.buttons)]
  decode v := do
    let alignment ← defaulted v "alignment" ButtonAlignment.right
    let canShrink ← defaulted v "can_shrink" true
    let buttons ← defaulted v "buttons" []
    return ⟨← ButtonSpacing.decode v, alignment, canShrink, buttons⟩

instance : Persisted ButtonBar where
  encode b := encode b.properties
  decode v := (decode v).map ButtonBar.ofProperties

/-- The form of the kind of the layout. -/
def Layout.encode : Layout → Value
  | .free g => Persisted.encode g
  | .border b => Persisted.encode b
  | .buttons b => Persisted.encode b

/-- Read a layout of the same kind. -/
def Layout.decodeAs (l : Layout) (v : Value) : Option Layout :=
  match l with
  | .free _ => (decode v).map Layout.free
  | .border _ => (decode v).map Layout.border
  | .buttons _ => (decode v).map Layout.buttons

end GridLayout

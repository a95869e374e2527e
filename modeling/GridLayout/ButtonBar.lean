import GridLayout.Grid.Arrangement
import GridLayout.Placement.Builder
import GridLayout.Track.Builder

/-!
# Button bars

A row of equally wide buttons on a grid of `2 n + 1` columns for `n` buttons: the left margin, the
buttons with gaps between them, and the right margin; above and below lie the two other margins.
The alignment says which of the outer columns takes the space left over.

* `ButtonBarProperties.build` makes the grid of the properties.
* `ButtonBar.ensureGrid` keeps it until a property changes; it is never part of what a bar is.
-/

namespace GridLayout

/-- Where the buttons go if the bar is wider than they need. -/
inductive ButtonAlignment where
  | left
  | center
  | right
deriving DecidableEq, Repr

namespace ButtonAlignment

def all : List ButtonAlignment := [left, center, right]

def name : ButtonAlignment → String
  | left => "LEFT"
  | center => "CENTER"
  | right => "RIGHT"

/-- The alignment with exactly this name. -/
def ofName? (name : String) : Option ButtonAlignment := all.find? fun a => a.name == name

/-- The alignment of a name in any case, blanks around it ignored. -/
def ofText (s : String) : Except LayoutError ButtonAlignment :=
  match ofName? (String.ofList (Text.uppercase (Text.trim s.toList))) with
  | some alignment => .ok alignment
  | none => .error (.unreadable s .unknownButtonAlignment)

/-- The weight of the left margin. -/
def leftWeight : ButtonAlignment → Int
  | left => 0
  | center => 50
  | right => 100

/-- The weight of the right margin. -/
def rightWeight : ButtonAlignment → Int
  | left => 100
  | center => 50
  | right => 0

end ButtonAlignment

/-- The lengths of a button bar. -/
structure ButtonSpacing where
  leftMargin : Length
  rightMargin : Length
  topMargin : Length
  bottomMargin : Length
  gap : Length
deriving DecidableEq

/-- The properties of a button bar; its buttons are in order from left to right. -/
structure ButtonBarProperties where
  spacing : ButtonSpacing
  alignment : ButtonAlignment
  canShrink : Bool
  buttons : List ComponentId
deriving DecidableEq

namespace ButtonBarProperties

def defaultMargin : Length := ⟨.ofInt 2, .dialog⟩

def defaultGap : Length := ⟨.ofInt 1, .dialog⟩

/-- The same margin on every side. -/
def uniformSpacing (margin gap : Length) : ButtonSpacing := ⟨margin, margin, margin, margin, gap⟩

/-- No buttons; they would stand on the right with the default spacing. -/
def empty : ButtonBarProperties := ⟨uniformSpacing defaultMargin defaultGap, .right, true, []⟩

/-! ## The grid -/

/-- A track of one length with a share of the space left over. -/
def marginTrack (l : Length) (weight : Int) : Except LayoutError Track :=
  ((TrackBuilder.forColumns.setMinimum l).setWeight weight).build

/-- A track as wide as a button. -/
def buttonTrack : Except LayoutError Track := (TrackBuilder.forColumns.setSizing .preferred).build

/-- The column at an index. Without buttons the only one is the right margin. -/
def column (p : ButtonBarProperties) (index : Nat) : Except LayoutError Track :=
  if index = 2 * p.buttons.length then
    marginTrack p.spacing.rightMargin p.alignment.rightWeight
  else if index = 0 then marginTrack p.spacing.leftMargin p.alignment.leftWeight
  else if index % 2 = 0 then marginTrack p.spacing.gap 0
  else buttonTrack

/-- The index of the column of the `i`-th button. -/
def buttonColumn (i : Nat) : Nat := 2 * i + 1

/-- The grid of the properties. -/
def build (p : ButtonBarProperties) : Except LayoutError Grid := do
  let count := p.buttons.length
  let columns ← (List.range (2 * count + 1)).mapM p.column
  let top ← marginTrack p.spacing.topMargin 0
  let bottom ← marginTrack p.spacing.bottomMargin 0
  let grid ← Grid.ofTracks columns [top, .defaultRow, bottom]
  let grid := { grid with canShrink := p.canShrink }
  let grid ←
    if 1 < count then do
      let group ← TrackGroup.ofList ((List.range count).map buttonColumn)
      pure (grid.addGroup .horizontal group)
    else pure grid
  return p.buttons.zipIdx.foldl (fun g (id, i) => g.add id (.single (buttonColumn i) 1)) grid

/-! ## Buttons -/

/-- Put a button at the right end; it leaves its former place. -/
def add (p : ButtonBarProperties) (id : ComponentId) : ButtonBarProperties :=
  { p with buttons := p.buttons.filter (fun b => b != id) ++ [id] }

def remove (p : ButtonBarProperties) (id : ComponentId) : ButtonBarProperties :=
  { p with buttons := p.buttons.filter fun b => b != id }

end ButtonBarProperties

/-! ## Bars -/

/-- Properties with the grid made from them, if there is one. -/
structure ButtonBar where
  properties : ButtonBarProperties
  grid : Option CachedGrid

namespace ButtonBar

/-- The bar whose grid is still to be made. -/
def ofProperties (p : ButtonBarProperties) : ButtonBar := ⟨p, none⟩

def new : ButtonBar := ofProperties .empty

instance : BEq ButtonBar := ⟨fun a b => a.properties == b.properties⟩

def setSpacing (b : ButtonBar) (s : ButtonSpacing) : ButtonBar :=
  ofProperties { b.properties with spacing := s }

def setAlignment (b : ButtonBar) (alignment : ButtonAlignment) : ButtonBar :=
  ofProperties { b.properties with alignment }

/-- Changes the grid too, which does not have to be made again for it. -/
def setCanShrink (b : ButtonBar) (canShrink : Bool) : ButtonBar :=
  ⟨{ b.properties with canShrink }, b.grid.map fun g => g.setCanShrink canShrink⟩

def add (b : ButtonBar) (id : ComponentId) : ButtonBar := ofProperties (b.properties.add id)

/-- Take a button out; says whether it was there. -/
def remove (b : ButtonBar) (id : ComponentId) : Bool × ButtonBar :=
  if id ∈ b.properties.buttons then (true, ofProperties (b.properties.remove id)) else (false, b)

/-- The grid, which is made if there is none; a failure leaves none. -/
def ensureGrid (b : ButtonBar) : Except LayoutError CachedGrid :=
  match b.grid with
  | some g => .ok g
  | none => b.properties.build.map .ofGrid

end ButtonBar

end GridLayout

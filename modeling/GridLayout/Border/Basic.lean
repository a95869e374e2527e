import GridLayout.Grid.Arrangement
import GridLayout.Placement.Builder
import GridLayout.Track.Builder

/-!
# Border layouts

Up to five components, four along the edges and one in the centre, on a grid of seven columns and
seven rows: margin, edge, gap, centre, gap, edge, margin. An edge without a component collapses:
its gap is empty, and its neighbours span into its cells. Of two neighbouring edges the one
registered earlier takes the corner.

* `BorderLayout.build` makes the grid of the properties.
* `BorderLayout.ensureGrid` keeps it until a property changes; it is never part of what a layout is.
-/

namespace GridLayout

/-- The lengths of a border layout. -/
structure BorderSpacing where
  leftMargin : Length
  topMargin : Length
  rightMargin : Length
  bottomMargin : Length
  northGap : Length
  westGap : Length
  southGap : Length
  eastGap : Length
deriving DecidableEq

namespace BorderSpacing

/-- The same margin on every side and the same gap at every edge. -/
def uniform (margin gap : Length) : BorderSpacing :=
  ⟨margin, margin, margin, margin, gap, gap, gap, gap⟩

def setMargins (s : BorderSpacing) (l : Length) : BorderSpacing :=
  { s with leftMargin := l, topMargin := l, rightMargin := l, bottomMargin := l }

def setGaps (s : BorderSpacing) (l : Length) : BorderSpacing :=
  { s with northGap := l, westGap := l, southGap := l, eastGap := l }

/-- Left, top, right and bottom. -/
def margins (s : BorderSpacing) : List Length :=
  [s.leftMargin, s.topMargin, s.rightMargin, s.bottomMargin]

/-- North, west, south and east. -/
def gaps (s : BorderSpacing) : List Length := [s.northGap, s.westGap, s.southGap, s.eastGap]

end BorderSpacing

/-- The properties of a border layout; its components are in the order of their registration. -/
structure BorderProperties where
  spacing : BorderSpacing
  canShrink : Bool
  regions : List (ComponentId × BorderRegion)
deriving DecidableEq

namespace BorderProperties

/-- No components, margins or gaps. -/
def empty : BorderProperties := ⟨.uniform .zero .zero, true, []⟩

def occupied (p : BorderProperties) (region : BorderRegion) : Bool :=
  p.regions.any fun entry => entry.2 == region

/-! ## Tracks -/

/-- A track of one length. -/
def fixedTrack (l : Length) : Except LayoutError Track :=
  (TrackBuilder.forColumns.setMinimum l).build

/-- A track that follows its components. -/
def elasticTrack (weight : Int) : Except LayoutError Track :=
  ((TrackBuilder.forColumns.setSizing .preferred).setWeight weight).build

/-- The seven tracks of an axis. -/
def trackList (leadingMargin leadingGap trailingGap trailingMargin : Length) :
    Except LayoutError (List Track) := do
  let m ← fixedTrack leadingMargin
  let edge ← elasticTrack 0
  let g ← fixedTrack leadingGap
  let center ← elasticTrack 100
  let g' ← fixedTrack trailingGap
  let edge' ← elasticTrack 0
  let m' ← fixedTrack trailingMargin
  return [m, edge, g, center, g', edge', m']

/-- The gap beside an edge, which is empty if the edge is. -/
def gapBeside (p : BorderProperties) (region : BorderRegion) (gap : Length) : Length :=
  if p.occupied region then gap else .zero

/-- The seven tracks along each axis. -/
def tracks (p : BorderProperties) (axis : Axis) : Except LayoutError (List Track) :=
  let s := p.spacing
  match axis with
  | .horizontal =>
    trackList s.leftMargin (p.gapBeside .west s.westGap) (p.gapBeside .east s.eastGap) s.rightMargin
  | .vertical =>
    trackList s.topMargin (p.gapBeside .north s.northGap) (p.gapBeside .south s.southGap)
      s.bottomMargin

/-! ## Placements -/

/-- The index of the central track. -/
def centerIndex : Nat := 3

/-- The slot between two edges that are taken or not: it starts and ends beside an edge that is
taken, and includes one that is not. -/
def slotBetween (first second : Bool) : Slot :=
  ⟨if first then 3 else 1, 1 + (if first then 0 else 2) + (if second then 0 else 2),
    some centerIndex, none⟩

/-- The placement of a component in a region after the edges in `taken`. -/
def placementIn (taken : List BorderRegion) : BorderRegion → Placement
  | .north => ⟨slotBetween (.west ∈ taken) (.east ∈ taken), .single 1⟩
  | .south => ⟨slotBetween (.west ∈ taken) (.east ∈ taken), .single 5⟩
  | .west => ⟨.single 1, slotBetween (.north ∈ taken) (.south ∈ taken)⟩
  | .east => ⟨.single 5, slotBetween (.north ∈ taken) (.south ∈ taken)⟩
  | .center =>
    ⟨slotBetween (.west ∈ taken) (.east ∈ taken), slotBetween (.north ∈ taken) (.south ∈ taken)⟩

/-- The edges in the order of their registration, each after those in `taken`. -/
def edgeEntries (taken : List BorderRegion) : List (ComponentId × BorderRegion) → List Entry
  | [] => []
  | (_, .center) :: rest => edgeEntries taken rest
  | (id, region) :: rest =>
    ⟨id, placementIn taken region⟩ :: edgeEntries (region :: taken) rest

/-- The component in the centre comes last, after all edges. -/
def centerEntries (p : BorderProperties) : List Entry :=
  let center := (p.regions.filter fun entry => entry.2 == .center).getLast?
  center.toList.map fun entry => ⟨entry.1, placementIn (p.regions.map Prod.snd) .center⟩

def entries (p : BorderProperties) : List Entry := edgeEntries [] p.regions ++ p.centerEntries

/-- The grid of the properties. -/
def build (p : BorderProperties) : Except LayoutError Grid := do
  let columns ← p.tracks .horizontal
  let rows ← p.tracks .vertical
  let grid ← Grid.ofTracks columns rows
  return p.entries.foldl (fun g e => g.add e.id e.placement) { grid with canShrink := p.canShrink }

/-! ## Components -/

/-- Put a component into a region that no other one occupies; it leaves its former region and is
the last one registered. -/
def add (p : BorderProperties) (id : ComponentId) (region : BorderRegion) :
    Except LayoutError BorderProperties :=
  match p.regions.find? fun entry => entry.2 == region && entry.1 != id with
  | some other => .error (.argument (.occupiedRegion region other.1))
  | none =>
    .ok { p with regions := p.regions.filter (fun entry => entry.1 != id) ++ [(id, region)] }

def contains (p : BorderProperties) (id : ComponentId) : Bool :=
  p.regions.any fun entry => entry.1 == id

def remove (p : BorderProperties) (id : ComponentId) : BorderProperties :=
  { p with regions := p.regions.filter fun entry => entry.1 != id }

/-- The region of a component. -/
def region? (p : BorderProperties) (id : ComponentId) : Option BorderRegion :=
  (p.regions.find? fun entry => entry.1 == id).map Prod.snd

/-- The component in a region. -/
def componentIn? (p : BorderProperties) (region : BorderRegion) : Option ComponentId :=
  (p.regions.find? fun entry => entry.2 == region).map Prod.fst

end BorderProperties

/-- The region of a name in any case, blanks around it ignored. -/
def BorderRegion.ofText (s : String) : Except LayoutError BorderRegion :=
  match ofName? (String.ofList (Text.uppercase (Text.trim s.toList))) with
  | some region => .ok region
  | none => .error (.unreadable s .unknownRegion)

/-! ## Layouts -/

/-- Properties with the grid made from them, if there is one. -/
structure BorderLayout where
  properties : BorderProperties
  grid : Option CachedGrid

namespace BorderLayout

/-- The layout whose grid is still to be made. -/
def ofProperties (p : BorderProperties) : BorderLayout := ⟨p, none⟩

def new : BorderLayout := ofProperties .empty

instance : BEq BorderLayout := ⟨fun a b => a.properties == b.properties⟩

def setSpacing (b : BorderLayout) (s : BorderSpacing) : BorderLayout :=
  ofProperties { b.properties with spacing := s }

/-- Changes the grid too, which does not have to be made again for it. -/
def setCanShrink (b : BorderLayout) (canShrink : Bool) : BorderLayout :=
  ⟨{ b.properties with canShrink }, b.grid.map fun g => g.setCanShrink canShrink⟩

def add (b : BorderLayout) (id : ComponentId) (region : BorderRegion) :
    Except LayoutError BorderLayout :=
  (b.properties.add id region).map ofProperties

/-- Put a component into the region of a name. -/
def addNamed (b : BorderLayout) (id : ComponentId) (region : String) :
    Except LayoutError BorderLayout := do
  b.add id (← BorderRegion.ofText region)

/-- Take a component out; says whether it was registered. -/
def remove (b : BorderLayout) (id : ComponentId) : Bool × BorderLayout :=
  if b.properties.contains id then (true, ofProperties (b.properties.remove id)) else (false, b)

/-- The grid, which is made if there is none; a failure leaves none. -/
def ensureGrid (b : BorderLayout) : Except LayoutError CachedGrid :=
  match b.grid with
  | some g => .ok g
  | none => b.properties.build.map .ofGrid

end BorderLayout

end GridLayout

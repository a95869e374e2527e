import GridLayout.Grid.Cache

/-!
# Sizes of tracks

Along each axis the sizes are found in four steps:

1. a track is as large as its least size and the components of that single track claim;
2. for each component of several tracks the tracks under it that are not fixed are enlarged, if
   they are too small for it together (`Grid.accommodate`);
3. the members of each group get the size of the largest (`TrackGroup.apply`);
4. space left in the container is given to the tracks by their weights (`shareOut`).

If the sizes do not fit into the container and the grid may shrink, the first three steps are taken
again with the minimum sizes of the components.

* `Grid.cellSizes` takes the first two steps, `Grid.groupedSizes` three, `Grid.sizesIn` all.

`total` and `Slot.extent` are exact sums. Where the solver works with pixels the sum is cut to 32
bits (`wrap`); only the space that is shared out is found in 64 bits, in which no sum of sizes
overflows.
-/

namespace GridLayout

/-! ## Claims of components -/

/-- The part of a list that lies in the slot. -/
def Slot.cells {α : Type} (s : Slot) (l : List α) : List α := (l.drop s.start).take s.span

/-- The extent of several tracks together, as an exact sum. -/
def total (sizes : List Int) : Int := sizes.foldr (· + ·) 0

/-- The extent of the tracks in the slot together, as an exact sum. -/
def Slot.extent (s : Slot) (sizes : List Int) : Int := total (s.cells sizes)

namespace Grid

/-- The track by which a component is aligned and measured: its own one, or the target track, or
the one it starts in. -/
def governing (g : Grid) (slot : Slot) (axis : Axis) : Track :=
  let tracks := g.tracks axis
  (slot.override.or
    ((tracks[slot.target.getD slot.start]?).or (tracks[slot.start]?))).getD .defaultColumn

/-- The extent that a component claims. A fixed track does not measure it, and no track gives it
less than the least size. -/
def claim (g : Grid) (m : Measures) (pass : Pass) (axis : Axis) (e : Entry) : Int :=
  let track := g.governing (e.placement.along axis) axis
  let size := match track.sizing with
    | .fixed => 0
    | .minimum => m.minimum e.id axis
    | .preferred => m.extent pass e.id axis
  max size (track.minimum.toPixels m.metrics axis)

end Grid

/-! ## Enlarging tracks under a component -/

/-- The tracks in the slot that are not fixed. -/
def Slot.elastic (s : Slot) (tracks : List Track) : List Nat :=
  (List.range' s.start s.span).filter fun i => (tracks[i]?).any fun t => t.sizing != .fixed

/-- The part of `amount` that the `n`-th of `count` tracks gets: an even one, and a pixel more
for the first ones until nothing remains. The division rounds towards zero. -/
def evenShare (amount : Int) (count n : Nat) : Int :=
  amount.tdiv count + if (n : Int) < amount.tmod count then 1 else 0

/-- Spread an amount over the elastic tracks of the slot; nothing if there are none. -/
def Slot.enlarge (s : Slot) (tracks : List Track) (amount : Int) (sizes : List Int) :
    Option (List Int) :=
  let elastic := s.elastic tracks
  if elastic.isEmpty then none
  else some (elastic.zipIdx.foldl
    (fun sizes (i, n) =>
      sizes.modify i fun size => wrap (size + evenShare amount elastic.length n)) sizes)

namespace Grid

/-- Make room for a component that spans several tracks, if that is possible. -/
def accommodate (g : Grid) (m : Measures) (pass : Pass) (axis : Axis) (sizes : List Int)
    (e : Entry) : List Int :=
  let slot := e.placement.along axis
  let required := g.claim m pass axis e
  let available := wrap (slot.extent sizes)
  if available < required then
    (slot.enlarge (g.tracks axis) (wrap (required - available)) sizes).getD sizes
  else sizes

/-! ## The steps -/

/-- The components at the given places of the registry. -/
def entriesAt (g : Grid) (places : List Nat) : List Entry :=
  places.filterMap fun place => g.components[place]?

/-- The size of one track by its least size and the components of that track alone. -/
def baseSize (g : Grid) (m : Measures) (pass : Pass) (axis : Axis) (track : Track)
    (entries : List Entry) : Int :=
  entries.foldl (fun size e => max size (g.claim m pass axis e))
    (track.minimum.toPixels m.metrics axis)

/-- The sizes before any track is enlarged. -/
def baseSizes (g : Grid) (m : Measures) (pass : Pass) (axis : Axis) (c : Classification) :
    List Int :=
  (g.tracks axis).zipIdx.map fun (track, i) =>
    g.baseSize m pass axis track (g.entriesAt (c.singleAt axis i))

/-- The sizes without groups, from a classification. -/
def sizesFrom (g : Grid) (m : Measures) (pass : Pass) (axis : Axis) (c : Classification) :
    List Int :=
  (g.entriesAt (c.spanning.along axis)).foldl (g.accommodate m pass axis)
    (g.baseSizes m pass axis c)

/-- The sizes without groups. -/
def cellSizes (g : Grid) (m : Measures) (pass : Pass) (axis : Axis) : CacheM (List Int) := do
  let c ← g.classified
  return g.sizesFrom m pass axis c

/-- Apply groups one after another. -/
def applyGroups (groups : List TrackGroup) (sizes : List Int) : Except LayoutError (List Int) :=
  groups.foldlM (fun sizes group => group.apply sizes) sizes

/-- The sizes with the groups of the axis. -/
def groupedSizes (g : Grid) (m : Measures) (pass : Pass) (axis : Axis) : CacheM (List Int) := do
  let sizes ← g.cellSizes m pass axis
  ExceptT.mk (pure (applyGroups (g.groups axis) sizes))

end Grid

/-! ## Sharing out space by weight -/

/-- Add to the size of every track with a weight its floored share of the space. The share is found
in 64 bits, and cut to 32 before it is added. -/
def addShares (space : Int) (weights : Nat) : List Int → List Track → List Int
  | size :: sizes, track :: tracks =>
    (if 0 < track.weight then wrap (size + wrap (space * track.weight / weights)) else size) ::
      addShares space weights sizes tracks
  | sizes, _ => sizes

/-- The sum of the floored shares. -/
def sharesSum (space : Int) (weights : Nat) : List Int → List Track → Int
  | _ :: sizes, track :: tracks =>
    space * track.weight / weights + sharesSum space weights sizes tracks
  | _, _ => 0

/-- Add one pixel to the first tracks with a weight until nothing remains. -/
def addRemainder (remainder : Int) : List Int → List Track → List Int
  | size :: sizes, track :: tracks =>
    if 0 < remainder ∧ 0 < track.weight then
      wrap (size + 1) :: addRemainder (remainder - 1) sizes tracks
    else size :: addRemainder remainder sizes tracks
  | sizes, _ => sizes

/-- Give the space left in the container to the tracks by weight: to each its share, rounded down,
and what is lost to rounding to the first tracks with a weight. Nothing happens without space or
without weights. -/
def shareOut (sizes : List Int) (container : Int) (tracks : List Track) (weights : Nat) :
    List Int :=
  let space := container - total sizes
  if space ≤ 0 ∨ weights = 0 then sizes
  else addRemainder (space - sharesSum space weights sizes tracks)
    (addShares space weights sizes tracks) tracks

namespace Grid

/-- Share out the space of a container over the tracks of an axis. -/
def addWeights (g : Grid) (axis : Axis) (container : Int) (sizes : List Int) :
    StateM Cache (List Int) := do
  let weights ← g.totalWeight axis
  return shareOut sizes container (g.tracks axis) weights

/-- The sizes with which the tracks of an axis are laid out in a container. -/
def sizesIn (g : Grid) (m : Measures) (axis : Axis) (container : Int) : CacheM (List Int) := do
  let preferred ← g.groupedSizes m .preferred axis
  let sizes ←
    if container < wrap (total preferred) ∧ g.canShrink then g.groupedSizes m .minimum axis
    else pure preferred
  g.addWeights axis container sizes

end Grid

end GridLayout

import GridLayout.Grid.Classification

/-!
# What is kept between computations

The classification of the components and the total weight of each axis depend only on the grid, so
they are computed on first use and kept until a change makes them invalid. The kept values are
never part of what a grid is: two grids are equal whatever they have kept.

* `CacheM` is a computation that may use and refill the cache. A failure keeps the cache too.
* `Grid.classified` and `Grid.totalWeight` look up and refill.
* `CachedGrid` pairs a grid with its cache; its operations invalidate what they change.
-/

namespace GridLayout

structure Cache where
  classification : Option Classification
  weights : PerAxis (Option Nat)
  hits : Nat
  rebuilds : Nat
deriving DecidableEq

namespace Cache

def empty : Cache := ⟨none, .both none, 0, 0⟩

instance : Inhabited Cache := ⟨empty⟩

def isValid (c : Cache) : Bool := c.classification.isSome

/-- Forget the classification. -/
def invalidate (c : Cache) : Cache := { c with classification := none }

/-- Forget the total weights. -/
def invalidateWeights (c : Cache) : Cache := { c with weights := .both none }

end Cache

/-- A computation with a cache, which survives failures. -/
abbrev CacheM : Type → Type := ExceptT LayoutError (StateM Cache)

namespace Grid

/-- The classification, from the cache if it is there. A failure is not kept. -/
def classified (g : Grid) : CacheM Classification :=
  ExceptT.mk fun cache =>
    match cache.classification with
    | some c => (.ok c, { cache with hits := cache.hits + 1 })
    | none =>
      match g.classify with
      | .ok c => (.ok c, { cache with classification := some c, rebuilds := cache.rebuilds + 1 })
      | .error e => (.error e, cache)

/-- The sum of the weights of an axis. A weight is at most 100, so up to 42949672 tracks it fits
into the 32 bits without a sign that it is kept in; no longer axis is considered. -/
def weightSum (g : Grid) (axis : Axis) : Nat := ((g.tracks axis).map Track.weight).foldr (· + ·) 0

/-- The sum of the weights of an axis, from the cache if it is there. -/
def totalWeight (g : Grid) (axis : Axis) : StateM Cache Nat := fun cache =>
  match cache.weights.along axis with
  | some total => (total, cache)
  | none =>
    let total := g.weightSum axis
    (total, { cache with weights := cache.weights.modify axis fun _ => some total })

/-- Every placement fits into the grid. -/
def validate (g : Grid) : CacheM Unit := do
  let _ ← g.classified

end Grid

/-! ## Grids with their cache -/

structure CachedGrid where
  grid : Grid
  cache : Cache

namespace CachedGrid

/-- The grid with nothing kept. -/
def ofGrid (g : Grid) : CachedGrid := ⟨g, .empty⟩

instance : BEq CachedGrid := ⟨fun a b => a.grid == b.grid⟩

/-- Run a computation on the grid. -/
def run {α : Type} (g : CachedGrid) (f : Grid → CacheM α) : Except LayoutError α × CachedGrid :=
  let (result, cache) := (f g.grid).run g.cache
  (result, { g with cache })

/-- Replace a track. -/
def setTrack (g : CachedGrid) (axis : Axis) (index : Nat) (track : Track) :
    Except LayoutError CachedGrid := do
  let grid ← g.grid.setTrack axis index track
  return ⟨grid, g.cache.invalidateWeights⟩

def addGroup (g : CachedGrid) (axis : Axis) (group : TrackGroup) : CachedGrid :=
  { g with grid := g.grid.addGroup axis group }

def setCanShrink (g : CachedGrid) (canShrink : Bool) : CachedGrid :=
  { g with grid := { g.grid with canShrink } }

/-- Register or move a component. -/
def add (g : CachedGrid) (id : ComponentId) (placement : Placement) : CachedGrid :=
  ⟨g.grid.add id placement, g.cache.invalidate⟩

/-- Take a component out; says whether it was registered. -/
def remove (g : CachedGrid) (id : ComponentId) : Bool × CachedGrid :=
  if g.grid.contains id then (true, ⟨g.grid.remove id, g.cache.invalidate⟩) else (false, g)

def clear (g : CachedGrid) : CachedGrid := ⟨g.grid.clear, g.cache.invalidate⟩

/-- Forget what is kept. -/
def flush (g : CachedGrid) : CachedGrid := { g with cache := g.cache.invalidate.invalidateWeights }

end CachedGrid

end GridLayout

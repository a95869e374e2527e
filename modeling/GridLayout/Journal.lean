import GridLayout.Layout

/-!
# A journal of layout computations

What a computation does can be told as a list of events: measurements of components that are not
in the table, classifications, passes, and the rectangles given out. The computations themselves
keep no journal; here the events of each are derived from the same grid, cache and platform that
it starts from.

* `Event.line` is the line of a journal for an event: its level, its source and its words.
* `Journal.arranged` and the functions before it give the events of each computation in order.
-/

namespace GridLayout

inductive Event where
  | unknownComponent (id : ComponentId)
  | boundsGiven (id : ComponentId) (bounds : Rect)
  | classified (components spanningColumns spanningRows : Nat)
  | cannotEnlarge (id : ComponentId) (required available : Int)
  | shrinking (axis : Axis) (required available : Int)
  | arranged (container : Size) (sizes : PerAxis (List Int))
  | borderGridBuilt (regions : Nat)
deriving DecidableEq

namespace Event

/-- Items between brackets, a comma and a space between them. -/
def bracketed (l : List Int) : String := "[" ++ ", ".intercalate (l.map toString) ++ "]"

def line : Event → String
  | unknownComponent id =>
    "WARN percentgrid::platform no sizes registered for component " ++ id.toText
  | boundsGiven id r =>
    "TRACE percentgrid::platform bounds of " ++ id.toText ++ ": Rect \x7b " ++
      s!"x: {r.x}, y: {r.y}, width: {r.width}, height: {r.height}" ++ " \x7d"
  | classified n columns rows =>
    s!"TRACE percentgrid::cache classified {n} components ({columns} multi-column, " ++
      s!"{rows} multi-row)"
  | cannotEnlarge id required available =>
    "TRACE percentgrid::engine cannot enlarge fixed cells for component " ++ id.toText ++
      s!" ({required} > {available})"
  | shrinking axis required available =>
    "DEBUG percentgrid::engine shrinking " ++ axis.plural ++ s!" ({required} > {available})"
  | arranged container sizes =>
    s!"DEBUG percentgrid::engine layout {container.width}x{container.height}: columns " ++
      bracketed sizes.horizontal ++ ", rows " ++ bracketed sizes.vertical
  | borderGridBuilt n => s!"TRACE percentgrid::border built border grid for {n} regions"

end Event

namespace Journal

/-! ## Measuring -/

/-- Looking up a component in the table of a platform. -/
def lookedUp (p : Platform) (id : ComponentId) : List Event :=
  if (p.sizes? id).isNone then [.unknownComponent id] else []

/-- Finding the claim of a component, which a fixed track does not measure. -/
def claimed (p : Platform) (g : Grid) (axis : Axis) (e : Entry) : List Event :=
  if (g.governing (e.placement.along axis) axis).sizing = .fixed then [] else lookedUp p e.id

/-- Aligning a component; one that fills its cells is not measured. -/
def aligned (p : Platform) (g : Grid) (axis : Axis) (sizes : List Int) (e : Entry) : List Event :=
  let slot := e.placement.along axis
  if sizes.length < slot.stop ∨ (g.governing slot axis).alignment = .fill then []
  else claimed p g axis e

/-! ## Sizing -/

/-- Validating a grid, which classifies its components unless that is in the cache. -/
def validated (g : Grid) (cache : Cache) : List Event :=
  match cache.classification, g.classify with
  | none, .ok c =>
    [.classified g.components.length c.spanning.horizontal.length c.spanning.vertical.length]
  | _, _ => []

/-- Making room for the components that span several tracks. -/
def accommodated (p : Platform) (g : Grid) (pass : Pass) (axis : Axis) :
    List Int → List Entry → List Event
  | _, [] => []
  | sizes, e :: rest =>
    let slot := e.placement.along axis
    let required := g.claim p.measures pass axis e
    let available := wrap (slot.extent sizes)
    claimed p g axis e ++
      (if available < required ∧ (slot.elastic (g.tracks axis)).isEmpty then
        [.cannotEnlarge e.id required available] else []) ++
      accommodated p g pass axis (g.accommodate p.measures pass axis sizes e) rest

/-- Sizing the tracks of an axis in one pass. -/
def sized (p : Platform) (g : Grid) (cache : Cache) (pass : Pass) (axis : Axis) : List Event :=
  validated g cache ++
    match (g.classified.run cache).1 with
    | .error _ => []
    | .ok c =>
      (List.range (g.count axis)).flatMap (fun i =>
        (g.entriesAt (c.singleAt axis i)).flatMap (claimed p g axis)) ++
      accommodated p g pass axis (g.baseSizes p.measures pass axis c)
        (g.entriesAt (c.spanning.along axis))

/-- Sizing the tracks of an axis for a container. -/
def sizedIn (p : Platform) (g : Grid) (cache : Cache) (axis : Axis) (container : Int) :
    List Event :=
  sized p g cache .preferred axis ++
    match (g.groupedSizes p.measures .preferred axis).run cache with
    | (.ok preferred, cache) =>
      if container < wrap (total preferred) ∧ g.canShrink then
        .shrinking axis (wrap (total preferred)) container :: sized p g cache .minimum axis
      else []
    | (.error _, _) => []

/-- Finding the size of all tracks together. -/
def totalled (p : Platform) (g : Grid) (cache : Cache) (pass : Pass) : List Event :=
  sized p g cache pass .horizontal ++
    match (g.groupedSizes p.measures pass .horizontal).run cache with
    | (.ok _, cache) => sized p g cache pass .vertical
    | (.error _, _) => []

/-! ## Laying out -/

/-- Giving the components their rectangles. -/
def finished (p : Platform) (g : Grid) (container : Size) (a : Arrangement) : List Event :=
  g.components.flatMap (fun e =>
    aligned p g .horizontal a.sizes.horizontal e ++ aligned p g .vertical a.sizes.vertical e) ++
  a.bounds.map (fun entry => .boundsGiven entry.1 entry.2) ++ [.arranged container a.sizes]

/-- Laying out a grid in a container. -/
def arranged (p : Platform) (insets : Insets) (container : Size) (g : Grid) (cache : Cache) :
    List Event :=
  let content := insets.shrink container
  sizedIn p g cache .horizontal content.width ++
    match (g.sizesIn p.measures .horizontal content.width).run cache with
    | (.error _, _) => []
    | (.ok _, cache') =>
      sizedIn p g cache' .vertical content.height ++
        match ((g.arrange p.measures insets container).run cache).1 with
        | .error _ => []
        | .ok a => finished p g container a

/-! ## Making grids -/

/-- Making the grid of a border layout. -/
def built (properties : BorderProperties) : List Event :=
  match properties.build with
  | .ok _ => [.borderGridBuilt properties.regions.length]
  | .error _ => []

/-- Obtaining the grid of a layout. -/
def obtained : Layout → List Event
  | .border ⟨properties, none⟩ => built properties
  | _ => []

/-- Obtaining the grid of a layout and working on it. -/
def onGrid (l : Layout) (work : Grid → Cache → List Event) : List Event :=
  obtained l ++
    match l.ensureGrid with
    | .ok g => work g.grid g.cache
    | .error _ => []

end Journal

end GridLayout

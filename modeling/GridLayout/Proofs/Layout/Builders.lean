import GridLayout.Proofs.Border.Grid
import GridLayout.Proofs.ButtonBar.Grid

/-!
# Placements from a builder

All placements of a generated grid can be created with one builder, which starts each with nothing
set and might refuse any of them. It refuses none: a position is always set, and no span is empty.
What it creates are the placements of the grid, whatever was created before.

* `BorderProperties.placements` and `ButtonBarProperties.placements`: creating all of them.
* `BorderProperties.createIn_after`: a builder with nothing set creates the placement in a region.
* `BorderProperties.placements_eq` and `ButtonBarProperties.placements_eq`: what is created are the
  entries of the grid.
-/

namespace GridLayout

/-- In a cell a builder with nothing set creates a placement of that cell. -/
theorem PlacementBuilder.createAt_after (previous : Option Placement) (column row : Nat) :
    (after previous).createAt column row =
      (.ok (.single column row), after (some (.single column row))) := rfl

/-! ## Border layouts -/

namespace BorderProperties

/-- Create the placement of a component in a region after the edges in `taken`. -/
def createIn (b : PlacementBuilder) (taken : List BorderRegion) (region : BorderRegion) :
    Except LayoutError Placement × PlacementBuilder :=
  let columns := slotBetween (.west ∈ taken) (.east ∈ taken)
  let rows := slotBetween (.north ∈ taken) (.south ∈ taken)
  let alongNorth (row : Nat) :=
    ((b.setPosition columns.start row).setSpan .horizontal columns.span).setTarget .horizontal
      centerIndex
  let alongWest (column : Nat) :=
    ((b.setPosition column rows.start).setSpan .vertical rows.span).setTarget .vertical centerIndex
  match region with
  | .north => (alongNorth 1).create
  | .south => (alongNorth 5).create
  | .west => (alongWest 1).create
  | .east => (alongWest 5).create
  | .center =>
    ((((b.setPosition columns.start rows.start).setSpan .horizontal columns.span).setSpan .vertical
      rows.span).setTarget .horizontal centerIndex |>.setTarget .vertical centerIndex).create

/-- Create the placements of the edges in the order of their registration, each after those in
`taken`. -/
def placeEdges (b : PlacementBuilder) (taken : List BorderRegion) :
    List (ComponentId × BorderRegion) → Except LayoutError (List Entry × PlacementBuilder)
  | [] => .ok ([], b)
  | (_, .center) :: rest => placeEdges b taken rest
  | (id, region) :: rest => do
    let (placement, b) := createIn b taken region
    let placement ← placement
    let (entries, b) ← placeEdges b (region :: taken) rest
    return (⟨id, placement⟩ :: entries, b)

/-- Create all placements, that of the centre last. -/
def placements (p : BorderProperties) : Except LayoutError (List Entry) := do
  let (edges, b) ← placeEdges .new [] p.regions
  match (p.regions.filter fun entry => entry.2 == .center).getLast? with
  | none => return edges
  | some (id, _) =>
    let placement ← (createIn b (p.regions.map Prod.snd) .center).1
    return edges ++ [⟨id, placement⟩]

theorem span_slotBetween_ne_zero (first second : Bool) : (slotBetween first second).span ≠ 0 := by
  cases first <;> cases second <;> decide

/-- A builder with nothing set creates the placement in a region. -/
theorem createIn_after (previous : Option Placement) (taken : List BorderRegion)
    (region : BorderRegion) :
    createIn (.after previous) taken region =
      (.ok (placementIn taken region), .after (some (placementIn taken region))) := by
  unfold createIn PlacementBuilder.setSpan
  simp only [span_slotBetween_ne_zero, if_false]
  cases region <;> rfl

theorem placeEdges_after (previous : Option Placement) (taken : List BorderRegion)
    (regions : List (ComponentId × BorderRegion)) :
    ∃ last, placeEdges (.after previous) taken regions =
      .ok (edgeEntries taken regions, .after last) := by
  induction taken, regions using edgeEntries.induct generalizing previous with
  | case1 taken => exact ⟨previous, rfl⟩
  | case2 taken id rest ih => exact ih previous
  | case3 taken id region rest hedge ih =>
    -- what is remembered of this placement does not matter to the next ones
    obtain ⟨last, hrest⟩ := ih (some (placementIn taken region))
    refine ⟨last, ?_⟩
    rw [placeEdges, edgeEntries, createIn_after]
    · simp only [hrest, bind, Except.bind, pure, Except.pure]
    · exact hedge
    · exact hedge

/-- **No placement of a border layout is refused.** -/
theorem placements_eq (p : BorderProperties) : p.placements = .ok p.entries := by
  obtain ⟨last, hedges⟩ := placeEdges_after none [] p.regions
  have hnew : placeEdges .new [] p.regions = _ := hedges
  unfold placements entries centerEntries
  rw [hnew]
  generalize (p.regions.filter fun entry => entry.2 == .center).getLast? = center
  rcases center with _ | ⟨id, region⟩
  · simp [bind, Except.bind, pure, Except.pure]
  · simp [createIn_after, bind, Except.bind, pure, Except.pure]

end BorderProperties

/-! ## Button bars -/

namespace ButtonBarProperties

/-- Create the placements of buttons with their numbers from left to right. -/
def placeButtons (b : PlacementBuilder) : List (ComponentId × Nat) → Except LayoutError (List Entry)
  | [] => .ok []
  | (id, i) :: rest => do
    let (placement, b) := b.createAt (buttonColumn i) 1
    let placement ← placement
    let entries ← placeButtons b rest
    return ⟨id, placement⟩ :: entries

/-- Create all placements. -/
def placements (p : ButtonBarProperties) : Except LayoutError (List Entry) :=
  placeButtons .new p.buttons.zipIdx

theorem placeButtons_after (previous : Option Placement) (buttons : List (ComponentId × Nat)) :
    placeButtons (.after previous) buttons =
      .ok (buttons.map fun (id, i) => ⟨id, .single (buttonColumn i) 1⟩) := by
  induction buttons generalizing previous with
  | nil => rfl
  | cons button rest ih =>
    rw [placeButtons, PlacementBuilder.createAt_after]
    simp only [ih, bind, Except.bind, pure, Except.pure, List.map_cons]

/-- **No placement of a button is refused.** -/
theorem placements_eq (p : ButtonBarProperties) : p.placements = .ok p.entries :=
  placeButtons_after none p.buttons.zipIdx

end ButtonBarProperties

end GridLayout

import GridLayout.Proofs.Border.Grid
import GridLayout.Proofs.ButtonBar.Grid
import GridLayout.Proofs.Grid.Arrangement

/-!
# Histories of a layout

A border layout or a button bar is new or comes from its persisted form, and goes through any
sequence of edits, queries and computations. Its grid is made when it is first needed and kept until
an edit drops it or changes it along with the properties.

* `Layout.Reaches` says that a history leads from one layout to another, and `Layout.Reachable` that
  one leads there from the start.
* `Layout.Fresh` is the invariant: a grid that is kept is the one that would be made now.
* `Layout.never_stale`: what a reachable layout answers depends on its properties alone.
-/

namespace GridLayout

/-! ## Edits -/

/-- How a border layout can be changed. A change of lengths starts from those that it has. -/
inductive BorderEdit where
  | setSpacing (change : BorderSpacing → BorderSpacing)
  | setCanShrink (canShrink : Bool)
  | add (id : ComponentId) (region : BorderRegion)
  | addNamed (id : ComponentId) (region : String)
  | remove (id : ComponentId)

/-- The layout after an edit; one that is refused leaves it as it is. -/
def BorderLayout.after (b : BorderLayout) : BorderEdit → BorderLayout
  | .setSpacing change => b.setSpacing (change b.properties.spacing)
  | .setCanShrink canShrink => b.setCanShrink canShrink
  | .add id region => (b.add id region).toOption.getD b
  | .addNamed id region => (b.addNamed id region).toOption.getD b
  | .remove id => (b.remove id).2

/-- How a button bar can be changed. A change of lengths starts from those that it has. -/
inductive ButtonEdit where
  | setSpacing (change : ButtonSpacing → ButtonSpacing)
  | setAlignment (alignment : ButtonAlignment)
  | setCanShrink (canShrink : Bool)
  | add (id : ComponentId)
  | remove (id : ComponentId)

/-- The bar after an edit. -/
def ButtonBar.after (b : ButtonBar) : ButtonEdit → ButtonBar
  | .setSpacing change => b.setSpacing (change b.properties.spacing)
  | .setAlignment alignment => b.setAlignment alignment
  | .setCanShrink canShrink => b.setCanShrink canShrink
  | .add id => b.add id
  | .remove id => (b.remove id).2

namespace Layout

/-! ## Histories -/

/-- The answer of the grid, and the layout with what it has kept after it. -/
def answer (l : Layout) (q : Query) : Except LayoutError q.Answer × Layout :=
  l.onGrid fun g => g.answer q

/-- What can be done to a layout. Its sizes are among the answers to queries. -/
inductive Step where
  | border (edit : BorderEdit)
  | buttons (edit : ButtonEdit)
  | ask (q : Query)
  | perform (p : Platform) (insets : Insets) (container : Size)

/-- The layout after a step. An edit of the other kind of layout does nothing. -/
def after : Layout → Step → Layout
  | .border b, .border edit => .border (b.after edit)
  | .buttons b, .buttons edit => .buttons (b.after edit)
  | l, .border _ => l
  | l, .buttons _ => l
  | l, .ask q => (l.answer q).2
  | l, .perform p insets container => (l.perform p insets container).2.1

/-- A history leads from a layout to another one. -/
inductive Reaches (start : Layout) : Layout → Prop
  | refl : Reaches start start
  | after {l : Layout} (step : Step) : Reaches start l → Reaches start (l.after step)

/-- A history goes on with any sequence of steps. -/
theorem Reaches.foldl {start l : Layout} (h : start.Reaches l) (steps : List Step) :
    start.Reaches (steps.foldl Layout.after l) := by
  induction steps generalizing l with
  | nil => exact h
  | cons step steps ih => exact ih (h.after step)

/-- The layouts that histories start from. -/
inductive IsInitial : Layout → Prop
  | newBorder : IsInitial (.border .new)
  | newButtons : IsInitial (.buttons .new)
  | loadedBorder {v : Value} {b : BorderLayout} : decode v = some b → IsInitial (.border b)
  | loadedButtons {v : Value} {b : ButtonBar} : decode v = some b → IsInitial (.buttons b)

def Reachable (l : Layout) : Prop := ∃ start, IsInitial start ∧ Reaches start l

theorem preferredSize_eq_answer (l : Layout) (m : Measures) :
    l.preferredSize m = l.answer (.preferredSize m) := rfl

theorem minimumSize_eq_answer (l : Layout) (m : Measures) :
    l.minimumSize m = l.answer (.minimumSize m) := rfl

/-- Laying out is asking for the arrangement and giving out its rectangles. -/
theorem perform_eq_answer (l : Layout) (p : Platform) (insets : Insets) (container : Size) :
    l.perform p insets container =
      ((l.answer (.arrange p.measures insets container)).1,
        (l.answer (.arrange p.measures insets container)).2,
        ((l.answer (.arrange p.measures insets container)).1.toOption.map fun a =>
          p.setAllBounds a.bounds).getD p) := by
  have hanswer : l.answer (.arrange p.measures insets container) =
      l.onGrid fun g => g.run fun grid => grid.arrange p.measures insets container := rfl
  rw [hanswer, perform]
  rcases l.onGrid fun g => g.run fun grid => grid.arrange p.measures insets container with
    ⟨_ | _, _⟩ <;> rfl

/-! ## The grid that is kept -/

/-- The grid that the layout would make now. -/
def build : Layout → Except LayoutError Grid
  | .free g => .ok g.grid
  | .border b => b.properties.build
  | .buttons b => b.properties.build

/-- The grid that the layout keeps. -/
def kept? : Layout → Option CachedGrid
  | .free g => some g
  | .border b => b.grid
  | .buttons b => b.grid

/-- A grid that is kept is the one that would be made now, and its cache agrees with it. -/
def Fresh (l : Layout) : Prop :=
  ∀ g, l.kept? = some g → l.build = .ok g.grid ∧ g.cache.Agrees g.grid

variable {l : Layout}

theorem fresh_of_kept?_eq_none (h : l.kept? = none) : l.Fresh := by
  intro g hg
  rw [h] at hg
  cases hg

theorem ensureGrid_eq (l : Layout) : l.ensureGrid = match l.kept? with
    | some g => .ok g
    | none => l.build.map .ofGrid := by
  cases l with
  | free g => rfl
  | border b => obtain ⟨properties, _ | g⟩ := b <;> rfl
  | buttons b => obtain ⟨properties, _ | g⟩ := b <;> rfl

/-- The grid that is kept or made is the one that would be made now. -/
theorem Fresh.ensureGrid_eq_ok (h : l.Fresh) {g : CachedGrid} (hg : l.ensureGrid = .ok g) :
    l.build = .ok g.grid ∧ g.cache.Agrees g.grid := by
  rw [ensureGrid_eq] at hg
  split at hg
  · next hkept =>
    obtain rfl := Except.ok.inj hg
    exact h _ hkept
  · rcases hbuild : l.build with fault | grid <;> rw [hbuild] at hg
    · cases hg
    · obtain rfl := Except.ok.inj hg
      exact ⟨rfl, Cache.agrees_empty grid⟩

/-- A layout fails to make its grid as its properties do. -/
theorem build_of_ensureGrid_eq_error {fault : LayoutError}
    (hg : l.ensureGrid = .error fault) : l.build = .error fault := by
  rw [ensureGrid_eq] at hg
  split at hg
  · cases hg
  · rcases hbuild : l.build with fault' | grid <;> rw [hbuild] at hg
    · obtain rfl := Except.error.inj hg
      rfl
    · cases hg

/-- Keeping a grid with a refilled cache does not change what would be made. -/
theorem fresh_withGrid {g g' : CachedGrid} (hbuild : l.build = .ok g.grid)
    (hgrid : g'.grid = g.grid) (hagrees : g'.cache.Agrees g'.grid) : (l.withGrid g').Fresh := by
  intro kept hkept
  have hwith : (l.withGrid g').kept? = some g' ∧ (l.withGrid g').build = .ok g'.grid := by
    cases l with
    | free => exact ⟨rfl, rfl⟩
    | border => exact ⟨rfl, hgrid ▸ hbuild⟩
    | buttons => exact ⟨rfl, hgrid ▸ hbuild⟩
  obtain rfl := Option.some.inj (hwith.1.symm.trans hkept)
  exact ⟨hwith.2, hagrees⟩

/-- A fresh layout answers as by scanning the grid of its properties, and stays fresh. -/
theorem Fresh.answer (h : l.Fresh) (q : Query) :
    (l.answer q).1 = l.build >>= q.scan ∧ (l.answer q).2.Fresh := by
  unfold Layout.answer onGrid
  rcases hg : l.ensureGrid with fault | g
  · rw [build_of_ensureGrid_eq_error hg]
    exact ⟨rfl, h⟩
  · obtain ⟨hbuild, hagrees⟩ := h.ensureGrid_eq_ok hg
    obtain ⟨hanswer, hkept⟩ := q.computes_ask g.grid g.cache hagrees
    rw [hbuild]
    exact ⟨hanswer, fresh_withGrid hbuild rfl hkept⟩

/-- What a fresh layout is laid out as is the arrangement of the grid of its properties. -/
theorem Fresh.arranged_of_answer (h : l.Fresh) {m : Measures} {insets : Insets} {container : Size}
    {a : Arrangement} (harrange : (l.answer (.arrange m insets container)).1 = .ok a) :
    ∃ g, l.build = .ok g ∧ g.check = .ok () ∧ (∀ axis, g.GroupsInside axis) ∧
      a = g.arranged m insets container := by
  have hscan := (h.answer (.arrange m insets container)).1.symm.trans harrange
  obtain ⟨g, hbuild, hg⟩ := bind_eq_ok_iff.1 hscan
  exact ⟨g, hbuild, Grid.scanArrange_eq_ok_iff.1 hg⟩

/-- The layout is laid out in 32 bits along the axis, if it can make its grid. -/
def LayoutFits (l : Layout) (m : Measures) (axis : Axis) (insets : Insets) (container : Size) :
    Prop := ∀ g, l.build = .ok g → g.LayoutFits m axis insets container

instance (m : Measures) (axis : Axis) (insets : Insets) (container : Size) :
    Decidable (l.LayoutFits m axis insets container) :=
  match hbuild : l.build with
  | .error _ => .isTrue fun g hg => by cases hbuild.symm.trans hg
  | .ok g => decidable_of_iff (g.LayoutFits m axis insets container)
    ⟨fun h g' hg' => Except.ok.inj (hbuild.symm.trans hg') ▸ h, fun h => h g hbuild⟩

/-- A layout whose grids have no fault and no groups that reach outside fails only to make one. -/
theorem Fresh.exists_arrange_iff (h : l.Fresh)
    (hgrid : ∀ g, l.build = .ok g → g.check = .ok () ∧ ∀ axis, g.GroupsInside axis)
    {m : Measures} {insets : Insets} {container : Size} :
    (∃ a, (l.answer (.arrange m insets container)).1 = .ok a) ↔ ∃ g, l.build = .ok g := by
  rw [(h.answer _).1]
  constructor
  · rintro ⟨a, harrange⟩
    obtain ⟨g, hbuild, -⟩ := bind_eq_ok_iff.1 harrange
    exact ⟨g, hbuild⟩
  · rintro ⟨g, hbuild⟩
    obtain ⟨hcheck, hgroups⟩ := hgrid g hbuild
    exact ⟨_, bind_eq_ok_iff.2 ⟨g, hbuild,
      Grid.scanArrange_eq_ok hcheck hgroups insets container⟩⟩

end Layout

/-! ## Edits keep a layout fresh -/

namespace BorderLayout

/-- A refused registration leaves a layout as it is, and any other drops its grid. -/
theorem after_add (b : BorderLayout) (id : ComponentId) (region : BorderRegion) :
    b.after (.add id region) = b ∨
      ∃ p, b.properties.add id region = .ok p ∧ b.after (.add id region) = ofProperties p := by
  simp only [after, add]
  cases b.properties.add id region with
  | error => exact .inl rfl
  | ok p => exact .inr ⟨p, rfl, rfl⟩

/-- Registering in the region of a name is refused, or it is registering in some region. -/
theorem after_addNamed (b : BorderLayout) (id : ComponentId) (name : String) :
    b.after (.addNamed id name) = b ∨
      ∃ region, b.after (.addNamed id name) = b.after (.add id region) := by
  simp only [after, addNamed]
  cases BorderRegion.ofText name with
  | error => exact .inl rfl
  | ok region => exact .inr ⟨region, rfl⟩

end BorderLayout

namespace Layout

theorem fresh_border {b : BorderLayout} (h : (Layout.border b).Fresh) (edit : BorderEdit) :
    (Layout.border (b.after edit)).Fresh := by
  have hadd (id : ComponentId) (region : BorderRegion) :
      (Layout.border (b.after (.add id region))).Fresh := by
    rcases b.after_add id region with hrefused | ⟨p, -, hadded⟩
    · rwa [hrefused]
    · rw [hadded]
      exact fresh_of_kept?_eq_none rfl
  cases edit with
  | setSpacing change => exact fresh_of_kept?_eq_none rfl
  | setCanShrink canShrink =>
    -- the one edit that goes through the grid that is kept
    intro g hg
    obtain ⟨g, hkept, rfl⟩ := Option.map_eq_some_iff.1 hg
    obtain ⟨hbuild, hagrees⟩ := h g hkept
    exact ⟨BorderProperties.build_setCanShrink hbuild canShrink,
      CachedGrid.agrees_after hagrees (.setCanShrink canShrink)⟩
  | add id region => exact hadd id region
  | addNamed id name =>
    rcases b.after_addNamed id name with hrefused | ⟨region, hnamed⟩
    · rwa [hrefused]
    · rw [hnamed]
      exact hadd id region
  | remove id =>
    simp only [BorderLayout.after, BorderLayout.remove]
    split
    · exact fresh_of_kept?_eq_none rfl
    · exact h

theorem fresh_buttons {b : ButtonBar} (h : (Layout.buttons b).Fresh) (edit : ButtonEdit) :
    (Layout.buttons (b.after edit)).Fresh := by
  cases edit with
  | setSpacing change => exact fresh_of_kept?_eq_none rfl
  | setAlignment alignment => exact fresh_of_kept?_eq_none rfl
  | setCanShrink canShrink =>
    intro g hg
    obtain ⟨g, hkept, rfl⟩ := Option.map_eq_some_iff.1 hg
    obtain ⟨hbuild, hagrees⟩ := h g hkept
    exact ⟨ButtonBarProperties.build_setCanShrink hbuild canShrink,
      CachedGrid.agrees_after hagrees (.setCanShrink canShrink)⟩
  | add id => exact fresh_of_kept?_eq_none rfl
  | remove id =>
    simp only [ButtonBar.after, ButtonBar.remove]
    split
    · exact fresh_of_kept?_eq_none rfl
    · exact h

/-! ## The invariant of all histories -/

theorem IsInitial.fresh {l : Layout} (h : l.IsInitial) : l.Fresh := by
  cases h with
  | newBorder => exact fresh_of_kept?_eq_none rfl
  | newButtons => exact fresh_of_kept?_eq_none rfl
  | loadedBorder hdecode =>
    obtain ⟨properties, -, rfl⟩ := Option.map_eq_some_iff.1 hdecode
    exact fresh_of_kept?_eq_none rfl
  | loadedButtons hdecode =>
    obtain ⟨properties, -, rfl⟩ := Option.map_eq_some_iff.1 hdecode
    exact fresh_of_kept?_eq_none rfl

/-- A step keeps a layout fresh. -/
theorem Fresh.after {l : Layout} (h : l.Fresh) (step : Step) : (l.after step).Fresh := by
  cases step with
  | border edit =>
    cases l with
    | border b => exact fresh_border h edit
    | free | buttons => exact h
  | buttons edit =>
    cases l with
    | buttons b => exact fresh_buttons h edit
    | free | border => exact h
  | ask q =>
    have hanswer := (h.answer q).2
    cases l <;> exact hanswer
  | perform p insets container =>
    have hanswer : (l.perform p insets container).2.1.Fresh := by
      rw [perform_eq_answer]
      exact (h.answer (.arrange p.measures insets container)).2
    cases l <;> exact hanswer

/-- **The invariant of all histories**: a fresh layout stays so. -/
theorem Reaches.fresh {start l : Layout} (h : start.Reaches l) (hstart : start.Fresh) :
    l.Fresh := by
  induction h with
  | refl => exact hstart
  | after step _ ih => exact ih.after step

theorem Reachable.fresh {l : Layout} (h : l.Reachable) : l.Fresh := by
  obtain ⟨start, hinitial, hreaches⟩ := h
  exact hreaches.fresh hinitial.fresh

/-! ## What the edits keep -/

/-- Asking a layout does not change its kind and its properties. -/
theorem border_answer (b : BorderLayout) (q : Query) :
    ∃ grid, ((Layout.border b).answer q).2 = .border ⟨b.properties, grid⟩ := by
  unfold Layout.answer onGrid
  split
  · exact ⟨b.grid, rfl⟩
  · exact ⟨_, rfl⟩

theorem buttons_answer (b : ButtonBar) (q : Query) :
    ∃ grid, ((Layout.buttons b).answer q).2 = .buttons ⟨b.properties, grid⟩ := by
  unfold Layout.answer onGrid
  split
  · exact ⟨b.grid, rfl⟩
  · exact ⟨_, rfl⟩

/-- What all edits keep of the properties of a border layout holds after any history. -/
theorem Reaches.border {P : BorderProperties → Prop} {start : BorderLayout} {l : Layout}
    (h : (Layout.border start).Reaches l) (hstart : P start.properties)
    (hedit : ∀ b edit, P b.properties → P (BorderLayout.after b edit).properties) :
    ∃ b, l = .border b ∧ P b.properties := by
  induction h with
  | refl => exact ⟨start, rfl, hstart⟩
  | after step _ ih =>
    obtain ⟨b, rfl, hb⟩ := ih
    cases step with
    | border edit => exact ⟨_, rfl, hedit b edit hb⟩
    | buttons edit => exact ⟨b, rfl, hb⟩
    | ask q =>
      obtain ⟨grid, hgrid⟩ := border_answer b q
      exact ⟨⟨b.properties, grid⟩, hgrid, hb⟩
    | perform p insets container =>
      obtain ⟨grid, hgrid⟩ := border_answer b (.arrange p.measures insets container)
      refine ⟨⟨b.properties, grid⟩, ?_, hb⟩
      rw [← hgrid]
      exact congrArg (fun r => r.2.1) (perform_eq_answer (.border b) p insets container)

/-- What all edits keep of the properties of a button bar holds after any history. -/
theorem Reaches.buttons {P : ButtonBarProperties → Prop} {start : ButtonBar} {l : Layout}
    (h : (Layout.buttons start).Reaches l) (hstart : P start.properties)
    (hedit : ∀ b edit, P b.properties → P (ButtonBar.after b edit).properties) :
    ∃ b, l = .buttons b ∧ P b.properties := by
  induction h with
  | refl => exact ⟨start, rfl, hstart⟩
  | after step _ ih =>
    obtain ⟨b, rfl, hb⟩ := ih
    cases step with
    | border edit => exact ⟨b, rfl, hb⟩
    | buttons edit => exact ⟨_, rfl, hedit b edit hb⟩
    | ask q =>
      obtain ⟨grid, hgrid⟩ := buttons_answer b q
      exact ⟨⟨b.properties, grid⟩, hgrid, hb⟩
    | perform p insets container =>
      obtain ⟨grid, hgrid⟩ := buttons_answer b (.arrange p.measures insets container)
      refine ⟨⟨b.properties, grid⟩, ?_, hb⟩
      rw [← hgrid]
      exact congrArg (fun r => r.2.1) (perform_eq_answer (.buttons b) p insets container)

/-! ## No kept grid is stale -/

theorem build_congr {l l' : Layout} (h : l == l') : l.build = l'.build := by
  cases l <;> cases l'
  case free.free a b => exact congrArg Except.ok (eq_of_beq (a := a.grid) h)
  case border.border a b => exact congrArg BorderProperties.build (eq_of_beq (a := a.properties) h)
  case buttons.buttons a b =>
    exact congrArg ButtonBarProperties.build (eq_of_beq (a := a.properties) h)
  all_goals cases h

/-- Fresh layouts that compare equal answer alike. -/
theorem Fresh.answer_congr {l l' : Layout} (h : l.Fresh) (h' : l'.Fresh) (heq : l == l')
    (q : Query) : (l.answer q).1 = (l'.answer q).1 := by
  rw [(h.answer q).1, (h'.answer q).1, build_congr heq]

/-- They are laid out alike, and give out the same rectangles. -/
theorem Fresh.perform_congr {l l' : Layout} (h : l.Fresh) (h' : l'.Fresh) (heq : l == l')
    (p : Platform) (insets : Insets) (container : Size) :
    (l.perform p insets container).1 = (l'.perform p insets container).1 ∧
      (l.perform p insets container).2.2 = (l'.perform p insets container).2.2 := by
  rw [perform_eq_answer, perform_eq_answer]
  simp only [h.answer_congr h' heq, true_and]

/-- **A kept grid is never stale.** In a reachable layout the grid that is kept is the one that the
properties make now. So two reachable layouts that compare equal have the same sizes and are laid
out alike, with the same arrangement or error and the same rectangles given out, whatever was
computed in between. -/
theorem never_stale {l : Layout} (h : l.Reachable) :
    (∀ g, l.kept? = some g → l.build = .ok g.grid) ∧
    ∀ l' : Layout, l'.Reachable → l == l' →
      (∀ m, (l.preferredSize m).1 = (l'.preferredSize m).1) ∧
      (∀ m, (l.minimumSize m).1 = (l'.minimumSize m).1) ∧
      (∀ q, (l.answer q).1 = (l'.answer q).1) ∧
      ∀ p insets container,
        (l.perform p insets container).1 = (l'.perform p insets container).1 ∧
          (l.perform p insets container).2.2 = (l'.perform p insets container).2.2 := by
  refine ⟨fun g hg => (h.fresh g hg).1, fun l' h' heq => ?_⟩
  have hanswer (q : Query) := h.fresh.answer_congr h'.fresh heq q
  refine ⟨fun m => ?_, fun m => ?_, hanswer, fun p insets container =>
    h.fresh.perform_congr h'.fresh heq p insets container⟩
  · rw [preferredSize_eq_answer, preferredSize_eq_answer, hanswer]
  · rw [minimumSize_eq_answer, minimumSize_eq_answer, hanswer]

/-- A layout whose grid was made, changed along with the properties and kept through refused edits
is laid out like one without a grid. -/
theorem never_stale_patched :
    let start := [Step.border (.add ⟨1⟩ .west), .border (.add ⟨2⟩ .center)].foldl after
      (.border .new)
    let p := (Platform.new .default).insert ⟨1⟩ (.fixed ⟨30, 20⟩)
    let l := [Step.ask .validate, .border (.add ⟨3⟩ .west), .border (.addNamed ⟨2⟩ "nowhere"),
      .border (.setCanShrink false), .perform p .zero ⟨10, 10⟩].foldl after start
    let l' := start.after (.border (.setCanShrink false))
    (l.kept?.isSome ∧ l'.kept?.isNone) ∧
      (l.perform p .zero ⟨100, 50⟩).1 = (l'.perform p .zero ⟨100, 50⟩).1 ∧
      (l.perform p .zero ⟨100, 50⟩).1.map Arrangement.bounds =
        .ok [(⟨1⟩, ⟨0, 0, 30, 50⟩), (⟨2⟩, ⟨30, 0, 70, 50⟩)] := by
  intro start p l l'
  have hstart : (Layout.border .new).Reaches start := Reaches.refl.foldl _
  have hl : l.Reachable := ⟨_, .newBorder, hstart.foldl _⟩
  have hl' : l'.Reachable := ⟨_, .newBorder, hstart.after _⟩
  refine ⟨by decide +kernel, (((never_stale hl).2 l' hl' ?_).2.2.2 p .zero ⟨100, 50⟩).1, ?_⟩ <;>
    decide +kernel

end Layout

end GridLayout

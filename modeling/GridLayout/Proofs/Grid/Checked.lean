import GridLayout.Proofs.Grid.Agreement
import GridLayout.Proofs.Grid.Arrangement

/-!
# The solver with checked accesses

The solver looks up tracks, sizes and components by index, and relies on the check of the placements
for every index to be in range. Here the same solver is written down with each access checked: if
one is out of range, the computation has no outcome at all. With a cache that agrees with the grid
it always has one, and it is the outcome of the solver, so no access is ever out of range; neither
when there is a layout nor when there is none.

* `Checked` and `CheckedM` are computations with checked accesses, without and with a cache.
* `Grid.arrangeChecked` is the solver with checked accesses.
* `Grid.guards_arrange`: it does what the solver does.
-/

namespace GridLayout

/-- A computation with checked accesses: it may fail, and it has no outcome if an access is out of
range. -/
abbrev Checked : Type → Type := ExceptT LayoutError Option

/-- A computation with checked accesses that may use and refill the cache. -/
abbrev CheckedM : Type → Type := ExceptT LayoutError (StateT Cache Option)

/-- A step without accesses. -/
def Checked.ofExcept {α : Type} (result : Except LayoutError α) : Checked α :=
  ExceptT.mk (some result)

/-- A step that does not use the cache. -/
def CheckedM.ofChecked {α : Type} (f : Checked α) : CheckedM α :=
  ExceptT.mk fun cache => f.run.map fun result => (result, cache)

/-- A step that only uses the cache. -/
def CheckedM.ofState {α : Type} (f : StateM Cache α) : CheckedM α :=
  ExceptT.mk fun cache => some (.ok (f cache).1, (f cache).2)

/-- No outcome. -/
def Checked.outOfRange {α : Type} : Checked α := ExceptT.mk none

/-- The element at an index, which must be in range. -/
def Checked.access {α : Type} (l : List α) (i : Nat) : Checked α :=
  match l[i]? with
  | some a => return a
  | none => outOfRange

/-- Change the element at an index, which must be in range. -/
def Checked.modify {α : Type} (l : List α) (i : Nat) (f : α → α) : Checked (List α) := do
  let a ← access l i
  return l.set i (f a)

/-! ## The steps with checked accesses -/

namespace Classification

/-- Sort in a component along one axis; the track it starts in must be there. -/
def insertAlongChecked (c : Classification) (axis : Axis) (place : Nat) (slot : Slot) :
    Checked Classification :=
  if slot.span = 1 then do
    let tracks ← Checked.modify (c.single.along axis) slot.start fun l => l ++ [place]
    return { c with single := c.single.modify axis fun _ => tracks }
  else return { c with spanning := c.spanning.modify axis fun l => l ++ [place] }

/-- Sort in the component at a place of the registry. -/
def insertChecked (c : Classification) (place : Nat) (p : Placement) : Checked Classification := do
  let c ← c.insertAlongChecked .horizontal place p.horizontal
  c.insertAlongChecked .vertical place p.vertical

end Classification

/-- The part of a list that lies in the slot, which must not reach beyond it. -/
def Slot.cellsChecked {α : Type} (s : Slot) (l : List α) : Checked (List α) :=
  if s.stop ≤ l.length then return s.cells l else Checked.outOfRange

/-- The tracks in the slot that are not fixed. -/
def Slot.elasticChecked (s : Slot) (tracks : List Track) : Checked (List Nat) := do
  let covered ← (List.range' s.start s.span).mapM fun i => do
    let track ← Checked.access tracks i
    return (i, track)
  return (covered.filter fun (_, track) => track.sizing != .fixed).map Prod.fst

/-- Spread an amount over the elastic tracks of the slot; nothing changes if there are none. -/
def Slot.enlargeChecked (s : Slot) (tracks : List Track) (amount : Int) (sizes : List Int) :
    Checked (List Int) := do
  let elastic ← s.elasticChecked tracks
  if elastic.isEmpty then return sizes
  else elastic.zipIdx.foldlM (fun sizes (i, n) =>
    Checked.modify sizes i fun size => wrap (size + evenShare amount elastic.length n)) sizes

namespace TrackGroup

/-- Give every member the size of the largest one; nothing if an index has no track. -/
def applyChecked (group : TrackGroup) (sizes : List Int) : Checked (List Int) :=
  if group.maxIndex < sizes.length then do
    let members ← group.indices.mapM (Checked.access sizes)
    let largest := members.max?.getD 0
    group.indices.foldlM (fun sizes i => Checked.modify sizes i fun _ => largest) sizes
  else throw (.outOfBounds group.maxIndex sizes.length)

end TrackGroup

namespace Grid

variable (g : Grid) (m : Measures) (pass : Pass) (axis : Axis)

/-- Check and sort in the remaining entries after the earlier ones. -/
def classifyAfterChecked (earlier : List Entry) (c : Classification) :
    List Entry → Checked Classification
  | [] => return c
  | e :: rest => do
    Checked.ofExcept (g.checkEntry earlier e)
    let c ← c.insertChecked earlier.length e.placement
    classifyAfterChecked (earlier ++ [e]) c rest

/-- The classification of the components, or the first fault among them. -/
def classifyChecked : Checked Classification :=
  g.classifyAfterChecked [] (.empty (g.count .horizontal) (g.count .vertical)) g.components

/-- The classification, from the cache if it is there. -/
def classifiedChecked : CheckedM Classification :=
  ExceptT.mk fun cache =>
    match cache.classification with
    | some c => some (.ok c, { cache with hits := cache.hits + 1 })
    | none =>
      match g.classifyChecked.run with
      | none => none
      | some (.ok c) =>
        some (.ok c, { cache with classification := some c, rebuilds := cache.rebuilds + 1 })
      | some (.error e) => some (.error e, cache)

/-- The components at the given places of the registry, which must be there. -/
def entriesAtChecked (places : List Nat) : Checked (List Entry) :=
  places.mapM (Checked.access g.components)

/-- The sizes before any track is enlarged. -/
def baseSizesChecked (c : Classification) : Checked (List Int) :=
  (g.tracks axis).zipIdx.mapM fun (track, i) => do
    let entries ← g.entriesAtChecked (c.singleAt axis i)
    return g.baseSize m pass axis track entries

/-- Make room for a component that spans several tracks, if that is possible. -/
def accommodateChecked (sizes : List Int) (e : Entry) : Checked (List Int) := do
  let slot := e.placement.along axis
  let required := g.claim m pass axis e
  let available := wrap (total (← slot.cellsChecked sizes))
  if available < required then
    slot.enlargeChecked (g.tracks axis) (wrap (required - available)) sizes
  else return sizes

/-- The sizes without groups, from a classification. -/
def sizesFromChecked (c : Classification) : Checked (List Int) := do
  let sizes ← g.baseSizesChecked m pass axis c
  let entries ← g.entriesAtChecked (c.spanning.along axis)
  entries.foldlM (g.accommodateChecked m pass axis) sizes

/-- Apply groups one after another. -/
def applyGroupsChecked (groups : List TrackGroup) (sizes : List Int) : Checked (List Int) :=
  groups.foldlM (fun sizes group => group.applyChecked sizes) sizes

/-- The sizes without groups. -/
def cellSizesChecked : CheckedM (List Int) := do
  let c ← g.classifiedChecked
  CheckedM.ofChecked (g.sizesFromChecked m pass axis c)

/-- The sizes with the groups of the axis. -/
def groupedSizesChecked : CheckedM (List Int) := do
  let sizes ← g.cellSizesChecked m pass axis
  CheckedM.ofChecked (applyGroupsChecked (g.groups axis) sizes)

/-- The sizes with which the tracks of an axis are laid out in a container. -/
def sizesInChecked (container : Int) : CheckedM (List Int) := do
  let preferred ← g.groupedSizesChecked m .preferred axis
  let sizes ←
    if container < wrap (total preferred) ∧ g.canShrink then g.groupedSizesChecked m .minimum axis
    else pure preferred
  CheckedM.ofState (g.addWeights axis container sizes)

/-- The rectangle of a component; the tracks it starts in must have positions. -/
def boundChecked (sizes positions : PerAxis (List Int)) (e : Entry) :
    Checked (ComponentId × Rect) := do
  let left ← Checked.access positions.horizontal e.placement.horizontal.start
  let x ← Checked.ofExcept (g.align m .horizontal e sizes.horizontal left)
  let top ← Checked.access positions.vertical e.placement.vertical.start
  let y ← Checked.ofExcept (g.align m .vertical e sizes.vertical top)
  return (e.id, .ofIntervals ⟨x, y⟩)

/-- Lay out all components in a container. -/
def arrangeChecked (insets : Insets) (container : Size) : CheckedM Arrangement := do
  let content := insets.shrink container
  let columns ← g.sizesInChecked m .horizontal content.width
  let rows ← g.sizesInChecked m .vertical content.height
  let sizes : PerAxis (List Int) := ⟨columns, rows⟩
  let positions : PerAxis (List Int) := ⟨positions insets.left columns, positions insets.top rows⟩
  let bounds ← CheckedM.ofChecked (g.components.mapM (g.boundChecked m sizes positions))
  return ⟨sizes, positions, bounds⟩

end Grid

/-! ## Accesses in range -/

namespace Checked

variable {α β : Type}

theorem access_eq {l : List α} {i : Nat} {a : α} (h : l[i]? = some a) : access l i = pure a := by
  unfold access
  rw [h]

theorem access_eq_getD {l : List α} {i : Nat} (h : i < l.length) (default : α) :
    access l i = pure (l.getD i default) := by
  have hat := List.getElem?_eq_getElem h
  rw [access_eq hat, List.getD_eq_getElem?_getD, hat, Option.getD_some]

theorem modify_eq {l : List α} {i : Nat} (h : i < l.length) (f : α → α) :
    modify l i f = pure (l.modify i f) := by
  rw [modify, access_eq (List.getElem?_eq_getElem h), pure_bind, List.modify_eq_set_get f h]
  rfl

/-- A step without accesses after another is the sequence of both. -/
theorem ofExcept_bind (result : Except LayoutError α) (next : α → Except LayoutError β) :
    ofExcept (result >>= next) = ofExcept result >>= fun a => ofExcept (next a) := by
  cases result <;> rfl

/-- If the accesses are in range for every element, so are they for the list. -/
theorem mapM_eq_ofExcept {f : α → Checked β} {result : α → Except LayoutError β} {l : List α}
    (h : ∀ a ∈ l, f a = ofExcept (result a)) : l.mapM f = ofExcept (l.mapM result) := by
  induction l with
  | nil => rfl
  | cons a l ih =>
    rw [List.mapM_cons, List.mapM_cons, ofExcept_bind, h a (by simp),
      ih fun b hb => h b (List.mem_cons_of_mem a hb)]
    simp only [ofExcept_bind]
    rfl

end Checked

/-! ### Classifying -/

namespace Classification

theorem insertAlongChecked_eq {c : Classification} {axis : Axis} {slot : Slot}
    (h : slot.start < (c.single.along axis).length) (place : Nat) :
    c.insertAlongChecked axis place slot = pure (c.insertAlong axis place slot) := by
  unfold insertAlongChecked insertAlong
  split
  · rw [Checked.modify_eq h, pure_bind]
    cases axis <;> rfl
  · rfl

theorem insertChecked_eq {c : Classification} {p : Placement}
    (h : ∀ axis, (p.along axis).start < (c.single.along axis).length) (place : Nat) :
    c.insertChecked place p = pure (c.insert place p) := by
  have hstart : p.vertical.start <
      ((c.insertAlong .horizontal place p.horizontal).single.along .vertical).length := by
    rw [length_insertAlong]
    exact h .vertical
  have hhorizontal := insertAlongChecked_eq (h .horizontal) place
  exact (congrArg (· >>= _) hhorizontal).trans (insertAlongChecked_eq hstart place)

end Classification

namespace Grid

variable {g : Grid} (m : Measures) (pass : Pass) {axis : Axis}

/-- An entry that is accepted starts in tracks that are there. -/
theorem classifyAfterChecked_eq {earlier : List Entry} {c : Classification}
    (hlen : ∀ axis, (c.single.along axis).length = g.count axis) (rest : List Entry) :
    g.classifyAfterChecked earlier c rest = Checked.ofExcept (g.classifyAfter earlier c rest) := by
  induction rest generalizing earlier c with
  | nil => rfl
  | cons e rest ih =>
    rw [classifyAfterChecked, classifyAfter, Checked.ofExcept_bind]
    cases hentry : g.checkEntry earlier e with
    | error fault => rfl
    | ok _ =>
      have hfits : e.Fits g := (checkEntry_eq_ok_iff.1 hentry).1
      have hinsert : c.insertChecked earlier.length e.placement =
          pure (c.insert earlier.length e.placement) := by
        apply Classification.insertChecked_eq
        intro axis
        rw [hlen]
        exact hfits.start_lt axis
      have hrest : g.classifyAfterChecked (earlier ++ [e]) (c.insert earlier.length e.placement) rest =
          Checked.ofExcept
            (g.classifyAfter (earlier ++ [e]) (c.insert earlier.length e.placement) rest) := by
        apply ih
        intro axis
        rw [Classification.insert, Classification.length_insertAlong,
          Classification.length_insertAlong, hlen]
      change (c.insertChecked earlier.length e.placement >>= _) = _
      rw [hinsert, pure_bind]
      exact hrest

theorem classifyChecked_eq : g.classifyChecked = Checked.ofExcept g.classify := by
  apply classifyAfterChecked_eq
  exact (Classification.sorts_empty g).length

/-! ### Sizes without groups -/

theorem lt_of_mem_placesOf {p : Entry → Bool} {entries : List Entry} {place : Nat}
    (h : place ∈ placesOf p entries) : place < entries.length := by
  obtain ⟨⟨e, i⟩, hmem, rfl⟩ := List.mem_map.1 h
  have hlt := List.snd_lt_of_mem_zipIdx (List.mem_of_mem_filter hmem)
  simpa using hlt

theorem entriesAtChecked_eq {places : List Nat} (h : ∀ place ∈ places, place < g.components.length) :
    g.entriesAtChecked places = pure (g.entriesAt places) := by
  induction places with
  | nil => rfl
  | cons place places ih =>
    obtain ⟨e, hat⟩ : ∃ e, g.components[place]? = some e :=
      ⟨_, List.getElem?_eq_getElem (h place (by simp))⟩
    have hrest : places.mapM (Checked.access g.components) = pure (g.entriesAt places) :=
      ih fun other hother => h other (List.mem_cons_of_mem place hother)
    have hentries : g.entriesAt (place :: places) = e :: g.entriesAt places :=
      List.filterMap_cons_some hat
    rw [entriesAtChecked, List.mapM_cons, Checked.access_eq hat, pure_bind, hrest, pure_bind,
      hentries]

theorem baseSizesChecked_eq {c : Classification} (hc : c.Sorts g g.components) :
    g.baseSizesChecked m pass axis c = pure (g.baseSizes m pass axis c) := by
  unfold baseSizesChecked baseSizes
  apply mapM_eq_pure
  rintro ⟨track, i⟩ hi
  have hlt : i < g.count axis := by
    have hlt := List.snd_lt_of_mem_zipIdx hi
    simpa [count] using hlt
  have hentries : g.entriesAtChecked (c.singleAt axis i) = pure (g.entriesAt (c.singleAt axis i)) := by
    apply entriesAtChecked_eq
    rw [hc.single axis i hlt]
    intro place hplace
    exact lt_of_mem_placesOf hplace
  simp only [hentries, pure_bind]

end Grid

namespace Slot

variable {s : Slot} {tracks : List Track}

theorem cellsChecked_eq {α : Type} {l : List α} (h : s.stop ≤ l.length) :
    s.cellsChecked l = pure (s.cells l) := if_pos h

theorem elasticChecked_eq (h : s.stop ≤ tracks.length) :
    s.elasticChecked tracks = pure (s.elastic tracks) := by
  have hcovered : ((List.range' s.start s.span).mapM fun i => do
      let track ← Checked.access tracks i
      return (i, track)) =
        pure ((List.range' s.start s.span).map fun i => (i, tracks.getD i default)) := by
    apply mapM_eq_pure
    intro i hi
    have hlt : i < tracks.length := (List.mem_range'_1.1 hi).2.trans_le h
    rw [Checked.access_eq_getD hlt, pure_bind]
  unfold elasticChecked elastic
  rw [hcovered, pure_bind, List.filter_map, List.map_map]
  congr 1
  refine (List.map_id _).trans (List.filter_congr fun i hi => ?_)
  have hlt : i < tracks.length := (List.mem_range'_1.1 hi).2.trans_le h
  simp [hlt]

theorem enlargeChecked_eq {sizes : List Int} (h : s.stop ≤ tracks.length)
    (hlen : sizes.length = tracks.length) (amount : Int) :
    s.enlargeChecked tracks amount sizes = pure ((s.enlarge tracks amount sizes).getD sizes) := by
  unfold enlargeChecked enlarge
  rw [elasticChecked_eq h, pure_bind]
  by_cases hnone : (s.elastic tracks).isEmpty
  · simp only [hnone, if_true, Option.getD_none]
  · simp only [hnone, Bool.false_eq_true, if_false, Option.getD_some]
    apply foldlM_eq_pure (p := fun sizes : List Int => sizes.length = tracks.length) _ hlen
    rintro sizes hlen ⟨i, n⟩ hi
    obtain ⟨hslot, -⟩ := List.mem_filter.1 (List.fst_mem_of_mem_zipIdx hi)
    have hlt : i < sizes.length := hlen ▸ (List.mem_range'_1.1 hslot).2.trans_le h
    exact ⟨Checked.modify_eq hlt _, by rw [List.length_modify, hlen]⟩

end Slot

namespace Grid

variable {g : Grid} (m : Measures) (pass : Pass) {axis : Axis}

theorem accommodateChecked_eq {sizes : List Int} {e : Entry}
    (h : (e.placement.along axis).stop ≤ g.count axis) (hlen : sizes.length = g.count axis) :
    g.accommodateChecked m pass axis sizes e = pure (g.accommodate m pass axis sizes e) := by
  unfold accommodateChecked accommodate
  simp only
  rw [Slot.cellsChecked_eq (hlen ▸ h), pure_bind, Slot.enlargeChecked_eq h hlen]
  change (if wrap ((e.placement.along axis).extent sizes) < _ then _ else _) = _
  split
  · rfl
  · rfl

theorem sizesFromChecked_eq {c : Classification} (h : g.classify = .ok c) :
    g.sizesFromChecked m pass axis c = pure (g.sizesFrom m pass axis c) := by
  have hsorts := sorts_of_classify h
  have hcheck : g.check = .ok () := by
    rw [← classify_map_unit, h]
    rfl
  have hspanning : g.entriesAtChecked (c.spanning.along axis) =
      pure (g.entriesAt (c.spanning.along axis)) := by
    apply entriesAtChecked_eq
    rw [hsorts.spanning]
    intro place hplace
    exact lt_of_mem_placesOf hplace
  rw [sizesFromChecked, baseSizesChecked_eq m pass hsorts, pure_bind, hspanning, pure_bind, sizesFrom]
  apply foldlM_eq_pure (p := fun sizes : List Int => sizes.length = g.count axis)
  · intro sizes hlen e he
    have hmem : e ∈ g.components := by
      obtain ⟨place, -, hat⟩ := List.mem_filterMap.1 he
      exact List.mem_of_getElem? hat
    have hstop := (fits_of_check hcheck hmem).stop_le axis
    exact ⟨accommodateChecked_eq m pass hstop hlen,
      (g.changedAt_accommodate m pass axis sizes e).length_eq.trans hlen⟩
  · rw [baseSizes_of_classify h, length_scanBaseSizes]

end Grid

/-! ### Groups and rectangles -/

namespace TrackGroup

theorem applyChecked_eq (group : TrackGroup) (sizes : List Int) :
    group.applyChecked sizes = Checked.ofExcept (group.apply sizes) := by
  unfold applyChecked apply
  by_cases hfit : group.maxIndex < sizes.length
  · have hlt {i : Nat} (hi : i ∈ group.indices) : i < sizes.length :=
      (group.le_maxIndex hi).trans_lt hfit
    have hmembers : group.indices.mapM (Checked.access sizes) =
        pure (group.indices.map fun i => sizes.getD i 0) := by
      apply mapM_eq_pure
      intro i hi
      exact Checked.access_eq_getD (hlt hi) 0
    rw [if_pos hfit, if_pos hfit, hmembers, pure_bind]
    apply foldlM_eq_pure (p := fun s : List Int => s.length = sizes.length) _ rfl
    intro s hlen i hi
    have hset : s.modify i (fun _ => group.largest sizes) = s.set i (group.largest sizes) :=
      (List.set_eq_modify _ _ _).symm
    exact ⟨(Checked.modify_eq (hlen ▸ hlt hi) _).trans (congrArg pure hset),
      by rw [List.length_set, hlen]⟩
  · rw [if_neg hfit, if_neg hfit]
    rfl

end TrackGroup

namespace Grid

variable {g : Grid} (m : Measures) (pass : Pass) {axis : Axis}

theorem applyGroupsChecked_eq (groups : List TrackGroup) (sizes : List Int) :
    applyGroupsChecked groups sizes = Checked.ofExcept (applyGroups groups sizes) := by
  induction groups generalizing sizes with
  | nil => rfl
  | cons group groups ih =>
    rw [applyGroupsChecked, applyGroups, List.foldlM_cons, List.foldlM_cons, Checked.ofExcept_bind,
      group.applyChecked_eq]
    exact bind_congr ih

theorem boundChecked_eq {sizes positions : PerAxis (List Int)} {e : Entry}
    (h : ∀ axis, (e.placement.along axis).start < (positions.along axis).length) :
    g.boundChecked m sizes positions e = Checked.ofExcept (g.bound m sizes positions e) := by
  have hleft : Checked.access positions.horizontal e.placement.horizontal.start = _ :=
    Checked.access_eq_getD (h .horizontal) 0
  have htop : Checked.access positions.vertical e.placement.vertical.start = _ :=
    Checked.access_eq_getD (h .vertical) 0
  unfold boundChecked bound
  simp only [Checked.ofExcept_bind, hleft, htop, pure_bind]
  rfl

end Grid

/-! ## The solver never leaves its ranges -/

theorem CheckedM.run_bind {α β : Type} (f : CheckedM α) (k : α → CheckedM β) (cache : Cache) :
    (f >>= k).run.run cache = match f.run.run cache with
      | some (.ok a, cache') => (k a).run.run cache'
      | some (.error e, cache') => some (.error e, cache')
      | none => none := by
  show (f.run.run cache >>= fun p => (ExceptT.bindCont k p.1).run p.2) = _
  rcases f.run.run cache with _ | ⟨_ | _, _⟩ <;> rfl

/-- With every cache that agrees with the grid, the computation with checked accesses does what the
other one does. -/
def CheckedM.Guards {α : Type} (g : Grid) (f' : CheckedM α) (f : CacheM α) : Prop :=
  ∀ cache : Cache, cache.Agrees g → f'.run.run cache = some (f.run cache)

namespace CheckedM.Guards

variable {α β : Type} {g : Grid}

theorem pure (a : α) : Guards g (Pure.pure a) (Pure.pure a) := fun _ _ => rfl

theorem ofExcept {f : Checked α} {result : Except LayoutError α} (h : f = Checked.ofExcept result) :
    Guards g (ofChecked f) (ExceptT.mk (Pure.pure result)) := by
  subst h
  intro cache _
  rfl

theorem ofState (f : StateM Cache α) : Guards g (CheckedM.ofState f) (liftM f) := fun _ _ => rfl

/-- In sequence the second computation may rely on the outcome of the first one. -/
theorem bind {f' : CheckedM α} {f : CacheM α} {result : Except LayoutError α}
    {k' : α → CheckedM β} {k : α → CacheM β} (hf : Guards g f' f)
    (hresult : CacheM.Computes g f result) (hk : ∀ a, result = .ok a → Guards g (k' a) (k a)) :
    Guards g (f' >>= k') (f >>= k) := by
  intro cache h
  obtain ⟨heq, hagrees⟩ := hresult cache h
  rw [run_bind, CacheM.run_bind, hf cache h]
  rcases hrun : f.run cache with ⟨fault | a, cache'⟩
  · rfl
  · rw [hrun] at heq hagrees
    exact hk a heq.symm cache' hagrees

theorem ite {p : Prop} [Decidable p] {f₁' f₂' : CheckedM α} {f₁ f₂ : CacheM α}
    (h₁ : Guards g f₁' f₁) (h₂ : Guards g f₂' f₂) :
    Guards g (if p then f₁' else f₂') (if p then f₁ else f₂) := by
  split
  · exact h₁
  · exact h₂

end CheckedM.Guards

namespace Grid

open CheckedM

variable (g : Grid) (m : Measures) (pass : Pass) (axis : Axis)

theorem guards_classified : Guards g g.classifiedChecked g.classified := by
  intro cache _
  have hclassify : g.classifyChecked.run = some g.classify :=
    congrArg ExceptT.run (classifyChecked_eq (g := g))
  rcases hc : cache.classification with _ | c
  · rcases hg : g.classify with fault | c
    · simp only [classifiedChecked, classified, ExceptT.run, ExceptT.mk, StateT.run, hc, hg] at *
      simp only [hclassify]
    · simp only [classifiedChecked, classified, ExceptT.run, ExceptT.mk, StateT.run, hc, hg] at *
      simp only [hclassify]
  · simp only [classifiedChecked, classified, ExceptT.run, ExceptT.mk, StateT.run, hc]

theorem guards_cellSizes : Guards g (g.cellSizesChecked m pass axis) (g.cellSizes m pass axis) :=
  (guards_classified g).bind (computes_classified g) fun _ hc =>
    Guards.ofExcept (sizesFromChecked_eq m pass hc)

theorem guards_groupedSizes :
    Guards g (g.groupedSizesChecked m pass axis) (g.groupedSizes m pass axis) :=
  (guards_cellSizes g m pass axis).bind (computes_cellSizes g m pass axis) fun sizes _ =>
    Guards.ofExcept (applyGroupsChecked_eq (g.groups axis) sizes)

theorem guards_sizesIn (container : Int) :
    Guards g (g.sizesInChecked m axis container) (g.sizesIn m axis container) := by
  refine (guards_groupedSizes g m .preferred axis).bind (computes_groupedSizes g m .preferred axis)
    fun preferred _ => ?_
  exact Guards.ite
    ((guards_groupedSizes g m .minimum axis).bind (computes_groupedSizes g m .minimum axis)
      fun sizes _ => Guards.ofState (g.addWeights axis container sizes))
    ((Guards.pure preferred).bind (CacheM.Computes.pure preferred)
      fun sizes _ => Guards.ofState (g.addWeights axis container sizes))

/-- **No access of the solver is out of range**: with every cache that agrees with the grid, the
solver with checked accesses has the outcome of the solver. -/
theorem guards_arrange (insets : Insets) (container : Size) :
    Guards g (g.arrangeChecked m insets container) (g.arrange m insets container) := by
  refine (guards_sizesIn g m .horizontal _).bind (computes_sizesIn g m .horizontal _)
    fun columns hcolumns => ?_
  refine (guards_sizesIn g m .vertical _).bind (computes_sizesIn g m .vertical _)
    fun rows hrows => ?_
  obtain ⟨hcheck, hcolumnGroups, rfl⟩ := (g.scanSizesIn_eq_ok_iff m).1 hcolumns
  obtain ⟨-, hrowGroups, rfl⟩ := (g.scanSizesIn_eq_ok_iff m).1 hrows
  refine (Guards.ofExcept (Checked.mapM_eq_ofExcept fun e he => boundChecked_eq m fun axis => ?_)).bind
    (CacheM.Computes.ofExcept _) fun bounds _ => Guards.pure _
  have hstart := (fits_of_check hcheck he).start_lt axis
  cases axis with
  | horizontal =>
    change _ < (positions _ _).length
    rwa [length_positions, length_sharedSizes hcolumnGroups]
  | vertical =>
    change _ < (positions _ _).length
    rwa [length_positions, length_sharedSizes hrowGroups]

end Grid

end GridLayout

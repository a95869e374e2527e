import GridLayout.Proofs.Cache.Partition
import GridLayout.Proofs.Grid.Checked
import GridLayout.Proofs.Grid.Refusal

/-!
# The cache as it is kept in place

A cache that has become invalid need not be emptied: it is enough to clear a flag, and the lists
stay where they are until they are filled anew. Here the cache is written down in this way, as a
computation that changes it step by step. New lists are filled in one pass over the components,
together with a table of the start cells that are taken, and the pass may stop at any component.

* `Filling.insert` sorts in one component, with every access checked, and `Grid.fill` all of them;
  `Grid.lists_fill`: the pass does what `Grid.classify` does.
* `FlaggedCache.view` is what a computation can see of the cache, and `FlaggedCache.runOn_ensure`:
  seen in this way the cache goes through what `Grid.validate` makes of it.
* `FlaggedCache.ensuresAtomically`: a cache that is not valid gets an ordered partition of the
  components, or stays exactly as it is.
-/

namespace GridLayout

/-! ## Filling the lists -/

namespace Grid

/-- An entry fits into the grid, whatever the other ones. -/
def checkPlacement (g : Grid) (e : Entry) : Except LayoutError Unit := do
  if e.placement.horizontal.span = 0 ∨ e.placement.vertical.span = 0 then
    throw (.state (.emptySpan e.id e.placement.horizontal.span e.placement.vertical.span))
  g.checkInside e .horizontal
  g.checkInside e .vertical
  g.checkTarget e .horizontal
  g.checkTarget e .vertical

theorem checkEntry_eq_bind (g : Grid) (earlier : List Entry) (e : Entry) :
    g.checkEntry earlier e = g.checkPlacement e >>= fun _ => checkStart earlier e := by
  unfold checkEntry checkPlacement
  split <;> simp

end Grid

/-- What has been filled in so far: the lists, and the component in every start cell that is
taken. -/
structure Filling where
  lists : Classification
  taken : Std.HashMap (Nat × Nat) ComponentId

namespace Filling

/-- No components, for the tracks of the grid. -/
def empty (g : Grid) : Filling := ⟨.empty (g.count .horizontal) (g.count .vertical), ∅⟩

/-- Check the entry and sort it in. -/
def insert (g : Grid) (f : Filling) (place : Nat) (e : Entry) : Checked Filling := do
  Checked.ofExcept (g.checkPlacement e)
  match f.taken[e.placement.corner]? with
  | some other =>
    throw (.state (.sharedStart other e.id e.placement.horizontal.start
      e.placement.vertical.start))
  | none =>
    let lists ← f.lists.insertChecked place e.placement
    return ⟨lists, f.taken.insert e.placement.corner e.id⟩

/-- The table has the first of the entries that starts in each cell. -/
def Takes (f : Filling) (entries : List Entry) : Prop :=
  ∀ cell, f.taken[cell]? =
    (entries.find? fun e => e.placement.corner == cell).map Entry.id

theorem takes_empty (g : Grid) : (empty g).Takes [] := fun _ => Std.HashMap.getElem?_empty

/-- An entry that starts in a cell of its own extends the table. -/
theorem Takes.insert {f : Filling} {entries : List Entry} (h : f.Takes entries) {e : Entry}
    (hfree : f.taken[e.placement.corner]? = none) (lists : Classification) :
    Takes ⟨lists, f.taken.insert e.placement.corner e.id⟩ (entries ++ [e]) := by
  intro cell
  rw [Std.HashMap.getElem?_insert, List.find?_append, List.find?_singleton]
  by_cases hcell : e.placement.corner = cell
  · subst hcell
    have hnone := Option.map_eq_none_iff.1 ((h e.placement.corner).symm.trans hfree)
    simp [hnone]
  · simp [hcell, h cell]

end Filling

namespace Grid

variable {g : Grid}

/-- Fill in the remaining entries after so many earlier ones. -/
def fillAfter (g : Grid) (earlier : Nat) (f : Filling) (rest : List Entry) : Checked Filling :=
  (rest.zipIdx earlier).foldlM (fun f (e, place) => f.insert g place e) f

/-- Check and sort in all components, in the order of the registry. -/
def fill (g : Grid) : Checked Filling := g.fillAfter 0 (.empty g) g.components

theorem fillAfter_cons (earlier : Nat) (f : Filling) (e : Entry) (rest : List Entry) :
    g.fillAfter earlier f (e :: rest) =
      f.insert g earlier e >>= fun f => g.fillAfter (earlier + 1) f rest := by
  rw [fillAfter, List.zipIdx_cons, List.foldlM_cons]
  rfl

/-- The table finds the same earlier entry as a scan of them. -/
theorem lists_fillAfter {earlier : List Entry} {f : Filling} (h : f.Takes earlier)
    (rest : List Entry) :
    Filling.lists <$> g.fillAfter earlier.length f rest =
      g.classifyAfterChecked earlier f.lists rest := by
  induction rest generalizing earlier f with
  | nil => rfl
  | cons e rest ih =>
    rw [fillAfter_cons, classifyAfterChecked, checkEntry_eq_bind, Checked.ofExcept_bind,
      Filling.insert]
    simp only [map_bind, bind_assoc]
    refine bind_congr fun _ => ?_
    have htaken := h e.placement.corner
    unfold checkStart
    cases hfind : earlier.find? fun other => other.placement.corner == e.placement.corner with
    | some other =>
      rw [hfind, Option.map_some] at htaken
      rw [htaken]
      rfl
    | none =>
      rw [hfind, Option.map_none] at htaken
      rw [htaken]
      change _ = f.lists.insertChecked earlier.length e.placement >>= _
      simp only [bind_assoc, pure_bind]
      refine bind_congr fun lists => ?_
      simpa using ih (h.insert htaken lists)

/-- **Filling in one pass is classifying.** -/
theorem lists_fill (g : Grid) : Filling.lists <$> g.fill = Checked.ofExcept g.classify := by
  rw [← classifyChecked_eq]
  exact lists_fillAfter (Filling.takes_empty g) g.components

/-- The pass has an outcome, and it is that of classifying. -/
theorem exists_run_fill (g : Grid) :
    ∃ result, g.fill.run = some result ∧ result.map Filling.lists = g.classify := by
  have hlists : Except.map Filling.lists <$> g.fill.run = some g.classify := by
    rw [← ExceptT.run_map, lists_fill]
    rfl
  exact Option.map_eq_some_iff.1 hlists

/-- There is a classification exactly of components that fit and start in cells of their own. -/
theorem exists_classify_eq_ok_iff : (∃ c, g.classify = .ok c) ↔ g.Accepts g.components := by
  rw [← checkAfter_nil_eq_ok_iff, ← exists_map_eq_ok_iff, classify_map_unit]
  exact ⟨fun ⟨(), h⟩ => h, fun h => ⟨(), h⟩⟩

/-! ## Validating -/

section

variable {cache : Cache}

theorem validate_run_of_isValid (h : cache.isValid = true) :
    g.validate.run cache = (.ok (), { cache with hits := cache.hits + 1 }) := by
  obtain ⟨c, hc⟩ := Option.isSome_iff_exists.1 h
  rw [validate, CacheM.run_bind]
  simp only [classified, ExceptT.run_mk, hc]
  rfl

theorem validate_run_of_not_isValid (h : cache.isValid = false) :
    g.validate.run cache = match g.classify with
      | .ok c => (.ok (), { cache with classification := some c, rebuilds := cache.rebuilds + 1 })
      | .error fault => (.error fault, cache) := by
  have hc : cache.classification = none := Option.not_isSome_iff_eq_none.1 (Bool.eq_false_iff.1 h)
  rw [validate, CacheM.run_bind]
  simp only [classified, ExceptT.run_mk, hc]
  cases g.classify <;> rfl

end

end Grid

/-! ## The cache -/

/-- A cache whose lists stay in place when they become invalid. -/
structure FlaggedCache where
  isValid : Bool
  lists : Classification
  weights : PerAxis (Option Nat)
  hits : Nat
  rebuilds : Nat
deriving DecidableEq

/-- A computation that changes the cache in place. It may fail, which keeps the cache as it is then,
and it has no outcome if an access is out of range. -/
abbrev FlaggedM : Type → Type := ExceptT LayoutError (StateT FlaggedCache Option)

namespace FlaggedM

variable {α β : Type}

/-- The outcome of the computation on the cache, and the cache afterwards. -/
def runOn (f : FlaggedM α) (s : FlaggedCache) : Option (Except LayoutError α × FlaggedCache) :=
  f.run.run s

/-- A computation that does not touch the cache. -/
def ofChecked (f : Checked α) : FlaggedM α :=
  ExceptT.mk fun s => f.run.map fun result => (result, s)

theorem runOn_bind (f : FlaggedM α) (k : α → FlaggedM β) (s : FlaggedCache) :
    (f >>= k).runOn s = match f.runOn s with
      | some (.ok a, s') => (k a).runOn s'
      | some (.error fault, s') => some (.error fault, s')
      | none => none := by
  change (f.run.run s >>= fun p => (ExceptT.bindCont k p.1).run p.2) = _
  unfold runOn
  rcases f.run.run s with _ | ⟨_ | _, _⟩ <;> rfl

theorem runOn_get (s : FlaggedCache) :
    (get : FlaggedM FlaggedCache).runOn s = some (.ok s, s) := rfl

theorem runOn_modify (f : FlaggedCache → FlaggedCache) (s : FlaggedCache) :
    (modify f : FlaggedM Unit).runOn s = some (.ok (), f s) := rfl

theorem runOn_ofChecked (f : Checked α) (s : FlaggedCache) :
    (ofChecked f).runOn s = f.run.map fun result => (result, s) := rfl

end FlaggedM

namespace FlaggedCache

/-- Nothing is kept. -/
def empty : FlaggedCache := ⟨false, .empty 0 0, .both none, 0, 0⟩

/-- What can be seen of the cache: lists that are not valid cannot. -/
def view (s : FlaggedCache) : Cache :=
  ⟨if s.isValid then some s.lists else none, s.weights, s.hits, s.rebuilds⟩

/-- Make the lists valid: they are filled anew if they are not. -/
def ensure (g : Grid) : FlaggedM Unit := do
  if (← get).isValid then
    modify fun s => { s with hits := s.hits + 1 }
  else
    -- the new lists are filled aside: a pass that stops has not touched the old ones
    let filling ← FlaggedM.ofChecked g.fill
    modify fun s => { s with lists := filling.lists }
    modify fun s => { s with isValid := true, rebuilds := s.rebuilds + 1 }

variable {g : Grid} {s : FlaggedCache}

theorem runOn_ensure_of_isValid (h : s.isValid = true) :
    (ensure g).runOn s = some (.ok (), { s with hits := s.hits + 1 }) := by
  rw [ensure, FlaggedM.runOn_bind, FlaggedM.runOn_get]
  simp only [h, if_true, FlaggedM.runOn_modify]

/-- Only a pass that comes to its end changes the cache. -/
theorem runOn_ensure_of_not_isValid (h : s.isValid = false) :
    (ensure g).runOn s = some (match g.classify with
      | .ok c => (.ok (), { s with lists := c, isValid := true, rebuilds := s.rebuilds + 1 })
      | .error fault => (.error fault, s)) := by
  obtain ⟨result, hfill, hclassify⟩ := g.exists_run_fill
  rw [ensure, FlaggedM.runOn_bind, FlaggedM.runOn_get, ← hclassify]
  simp only [h, Bool.false_eq_true, if_false, FlaggedM.runOn_bind, FlaggedM.runOn_ofChecked, hfill,
    Option.map_some]
  cases result <;> rfl

@[simp] theorem isValid_view (s : FlaggedCache) : s.view.isValid = s.isValid := by
  cases h : s.isValid <;> simp [view, Cache.isValid, h]

/-- **In place the cache goes through what validating makes of it**, and no access is out of
range. -/
theorem runOn_ensure (g : Grid) (s : FlaggedCache) :
    ∃ s', (ensure g).runOn s = some ((g.validate.run s.view).1, s') ∧
      s'.view = (g.validate.run s.view).2 := by
  cases h : s.isValid with
  | true =>
    rw [runOn_ensure_of_isValid h, Grid.validate_run_of_isValid (by rwa [isValid_view])]
    exact ⟨_, rfl, rfl⟩
  | false =>
    rw [runOn_ensure_of_not_isValid h, Grid.validate_run_of_not_isValid (by rwa [isValid_view])]
    cases g.classify with
    | ok c => exact ⟨_, rfl, rfl⟩
    | error fault => exact ⟨_, rfl, rfl⟩

/-! ### Whole or not at all -/

/-- Making the lists valid succeeds exactly on components that fit and start in cells of their own.
Then the lists are an ordered partition of them, the flag is set and a rebuild is counted, and
nothing else has changed. If it fails, nothing has changed at all. -/
structure EnsuresAtomically (s : FlaggedCache) (g : Grid) : Prop where
  total : ∃ result s', (ensure g).runOn s = some (result, s')
  succeeds_iff : (∃ s', (ensure g).runOn s = some (.ok (), s')) ↔ g.Accepts g.components
  of_ok : ∀ s', (ensure g).runOn s = some (.ok (), s') → s'.lists.IsPartition g ∧
    s' = { s with lists := s'.lists, isValid := true, rebuilds := s.rebuilds + 1 }
  of_error : ∀ fault s', (ensure g).runOn s = some (.error fault, s') → s' = s

/-- **A cache that is not valid gets an ordered partition, or stays exactly as it is.** -/
theorem ensuresAtomically (h : s.isValid = false) (g : Grid) : s.EnsuresAtomically g := by
  have hrun := runOn_ensure_of_not_isValid (g := g) h
  have haccepts := Grid.exists_classify_eq_ok_iff (g := g)
  rcases hclassify : g.classify with fault | c <;> rw [hclassify] at hrun haccepts
  · refine ⟨⟨_, _, hrun⟩, ?_, ?_, ?_⟩
    · simpa [hrun] using haccepts
    · intro s' hs'
      cases hrun.symm.trans hs'
    · intro fault' s' hs'
      cases hrun.symm.trans hs'
      rfl
  · refine ⟨⟨_, _, hrun⟩, ?_, ?_, ?_⟩
    · simpa [hrun] using haccepts
    · intro s' hs'
      cases hrun.symm.trans hs'
      exact ⟨Classification.isPartition_of_classify hclassify, rfl⟩
    · intro fault s' hs'
      cases hrun.symm.trans hs'

end FlaggedCache

end GridLayout

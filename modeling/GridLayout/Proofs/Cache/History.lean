import GridLayout.Proofs.Cache.Counters
import GridLayout.Proofs.Grid.History

/-!
# The calls of a history

Whatever is done to a grid comes down to calls of its cache: a change of the registry invalidates
the classification, and a query validates the grid once or several times. So what holds of a cache
after any calls holds of the cache of a grid after any history, and of the cache as it is kept in
place.

* `FlaggedCache.exists_run`: in place every sequence of calls leads to a cache that looks and
  answers as that of `Cache.run`.
* `CacheM.Makes` follows the calls of a computation through its monadic structure, and
  `Query.makes_ask` gives those of every query.
* `CachedGrid.cache_foldl_after`: a history does to the cache what its calls do.
* `CachedGrid.filled_atomically_and_counted`: the cache is filled as a whole or not at all, and it
  counts every validation that succeeds.
-/

namespace GridLayout

/-! ## In place -/

namespace FlaggedCache

/-- Look up the sum of the weights of an axis. -/
def weigh (s : FlaggedCache) (g : Grid) (axis : Axis) : FlaggedCache :=
  match s.weights.along axis with
  | some _ => s
  | none => { s with weights := s.weights.modify axis fun _ => some (g.weightSum axis) }

/-- The cache after a call; an access may be out of range. -/
def after (s : FlaggedCache) : Cache.Call → Option FlaggedCache
  | .validate g => ((ensure g).runOn s).map Prod.snd
  | .weigh g axis => some (s.weigh g axis)
  | .invalidate => some { s with isValid := false }
  | .invalidateWeights => some { s with weights := .both none }
  | .clear => some empty

theorem exists_after (s : FlaggedCache) (call : Cache.Call) :
    ∃ s', s.after call = some s' ∧ s'.view = s.view.after call := by
  cases call with
  | validate g =>
    obtain ⟨s', hrun, hview⟩ := runOn_ensure g s
    exact ⟨s', by rw [after, hrun, Option.map_some], hview⟩
  | weigh g axis =>
    refine ⟨_, rfl, ?_⟩
    have hweights : s.view.weights = s.weights := rfl
    simp only [weigh, Cache.after, Grid.totalWeight, hweights]
    cases s.weights.along axis <;> rfl
  | invalidate | invalidateWeights | clear => exact ⟨_, rfl, rfl⟩

/-- **No access is out of range**, and after all calls the cache looks and answers as it does if
nothing invalid is kept. -/
theorem exists_run (calls : List Cache.Call) :
    ∃ s, calls.foldlM after empty = some s ∧ s.view = Cache.run calls ∧
      ∀ g, ((ensure g).runOn s).map Prod.fst = some (g.validate.run (Cache.run calls)).1 := by
  have hrun : ∃ s, calls.foldlM after empty = some s ∧ s.view = Cache.run calls := by
    induction calls using List.reverseRecOn with
    | nil => exact ⟨empty, rfl, rfl⟩
    | append_singleton calls call ih =>
      obtain ⟨s, hs, hview⟩ := ih
      obtain ⟨s', hs', hview'⟩ := s.exists_after call
      refine ⟨s', ?_, by rw [hview', hview, Cache.run_concat]⟩
      rw [List.foldlM_append, hs]
      simpa using hs'
  obtain ⟨s, hs, hview⟩ := hrun
  refine ⟨s, hs, hview, fun g => ?_⟩
  obtain ⟨s', hrun, -⟩ := runOn_ensure g s
  rw [hrun, hview, Option.map_some]

end FlaggedCache

/-! ## The calls of a computation -/

/-- The calls of two computations in sequence; the second one is left out if the first one fails. -/
def Cache.thenCalls {α : Type} (calls : List Call) :
    Except LayoutError α → (α → List Call) → List Call
  | .ok a, next => calls ++ next a
  | .error _, _ => calls

/-- On every cache that agrees with the grid the computation does what the calls do. -/
def CacheM.Makes {α : Type} (g : Grid) (f : CacheM α) (calls : List Cache.Call) : Prop :=
  ∀ cache : Cache, cache.Agrees g → (f.run cache).2 = calls.foldl Cache.after cache

namespace CacheM.Makes

variable {α β : Type} {g : Grid}

theorem pure (a : α) : Makes g (Pure.pure a) [] := fun _ _ => rfl

theorem ofExcept (result : Except LayoutError α) : Makes g (ExceptT.mk (Pure.pure result)) [] :=
  fun _ _ => rfl

theorem bind {f : CacheM α} {result : Except LayoutError α} {calls : List Cache.Call}
    {k : α → CacheM β} {next : α → List Cache.Call} (hresult : Computes g f result)
    (hf : Makes g f calls) (hk : ∀ a, Makes g (k a) (next a)) :
    Makes g (f >>= k) (Cache.thenCalls calls result next) := by
  intro cache h
  obtain ⟨hrun, hagrees⟩ := hresult cache h
  have hcalls := hf cache h
  rw [run_bind]
  rcases hfrun : f.run cache with ⟨e | a, cache'⟩ <;> rw [hfrun] at hrun hagrees hcalls <;>
    subst hrun
  · exact hcalls
  · rw [Cache.thenCalls, List.foldl_append, ← hcalls]
    exact hk a cache' hagrees

/-- What makes no calls does not show. -/
theorem bind_nil {f : CacheM α} {calls : List Cache.Call} {k : α → CacheM β}
    (hf : Makes g f calls) (hk : ∀ a cache, ((k a).run cache).2 = cache) :
    Makes g (f >>= k) calls := by
  intro cache h
  rw [run_bind, ← hf cache h]
  rcases f.run cache with ⟨e | a, cache'⟩
  · rfl
  · exact hk a cache'

theorem ite {p : Prop} [Decidable p] {f f' : CacheM α} {calls calls' : List Cache.Call}
    (hf : Makes g f calls) (hf' : Makes g f' calls') :
    Makes g (if p then f else f') (if p then calls else calls') := by
  split
  · exact hf
  · exact hf'

end CacheM.Makes

namespace Grid

open CacheM

variable (g : Grid) (m : Measures) (pass : Pass) (axis : Axis)

theorem makes_classified : Makes g g.classified [.validate g] := by
  intro cache _
  rw [List.foldl_cons, List.foldl_nil, Cache.after, validate, run_bind]
  rcases g.classified.run cache with ⟨_ | _, _⟩ <;> rfl

theorem makes_validate : Makes g g.validate [.validate g] := fun _ _ => rfl

theorem makes_cellSizes : Makes g (g.cellSizes m pass axis) [.validate g] :=
  g.makes_classified.bind_nil fun _ _ => rfl

theorem makes_groupedSizes : Makes g (g.groupedSizes m pass axis) [.validate g] :=
  (g.makes_cellSizes m pass axis).bind_nil fun _ _ => rfl

theorem makes_totalWeight : Makes g (liftM (g.totalWeight axis)) [.weigh g axis] := fun _ _ => rfl

theorem makes_addWeights (container : Int) (sizes : List Int) :
    Makes g (liftM (g.addWeights axis container sizes)) [.weigh g axis] := fun _ _ => rfl

/-- The calls for the sizes in a container: the preferred pass validates, the minimum pass too, and
the weights are looked up last. -/
def sizingCalls (container : Int) : List Cache.Call :=
  Cache.thenCalls [.validate g] (g.scanGroupedSizes m .preferred axis) fun preferred =>
    if container < wrap (total preferred) ∧ g.canShrink then
      Cache.thenCalls [.validate g] (g.scanGroupedSizes m .minimum axis) fun _ => [.weigh g axis]
    else [.weigh g axis]

theorem makes_sizesIn (container : Int) :
    Makes g (g.sizesIn m axis container) (g.sizingCalls m axis container) :=
  (g.makes_groupedSizes m .preferred axis).bind (g.computes_groupedSizes m .preferred axis)
    fun preferred => Makes.ite
      ((g.makes_groupedSizes m .minimum axis).bind (g.computes_groupedSizes m .minimum axis)
        (g.makes_addWeights axis container))
      (g.makes_addWeights axis container preferred)

/-- The calls for the size of all tracks together. -/
def totalCalls : List Cache.Call :=
  Cache.thenCalls [.validate g] (g.scanGroupedSizes m pass .horizontal) fun _ => [.validate g]

theorem makes_totalSize : Makes g (g.totalSize m pass) (g.totalCalls m pass) :=
  (g.makes_groupedSizes m pass .horizontal).bind (g.computes_groupedSizes m pass .horizontal)
    fun _ => (g.makes_groupedSizes m pass .vertical).bind_nil fun _ _ => rfl

/-- The calls for a layout. -/
def arrangeCalls (insets : Insets) (container : Size) : List Cache.Call :=
  let content := insets.shrink container
  Cache.thenCalls (g.sizingCalls m .horizontal content.width)
    (g.scanSizesIn m .horizontal content.width) fun _ =>
      g.sizingCalls m .vertical content.height

theorem makes_arrange (insets : Insets) (container : Size) :
    Makes g (g.arrange m insets container) (g.arrangeCalls m insets container) := by
  refine (g.makes_sizesIn m .horizontal _).bind (g.computes_sizesIn m .horizontal _)
    fun columns => ?_
  -- only the rectangles are left, for which the cache is not needed
  refine (g.makes_sizesIn m .vertical _).bind_nil fun rows cache => ?_
  rw [run_bind]
  rcases g.components.mapM (g.bound m ⟨columns, rows⟩
    ⟨positions insets.left columns, positions insets.top rows⟩) with _ | _ <;> rfl

end Grid

namespace Query

/-- The calls for an answer. -/
def calls : Query → Grid → List Cache.Call
  | validate, g | cellSizes .., g | groupedSizes .., g => [.validate g]
  | totalWeight axis, g | addWeights axis _ _, g => [.weigh g axis]
  | sizesIn m axis container, g => g.sizingCalls m axis container
  | preferredSize m, g => g.totalCalls m .preferred
  | minimumSize m, g => g.totalCalls m (if g.canShrink then .minimum else .preferred)
  | arrange m insets container, g => g.arrangeCalls m insets container

theorem makes_ask (q : Query) (g : Grid) : CacheM.Makes g (q.ask g) (q.calls g) := by
  cases q with
  | validate => exact g.makes_validate
  | totalWeight axis => exact g.makes_totalWeight axis
  | cellSizes m pass axis => exact g.makes_cellSizes m pass axis
  | groupedSizes m pass axis => exact g.makes_groupedSizes m pass axis
  | sizesIn m axis container => exact g.makes_sizesIn m axis container
  | addWeights axis container sizes => exact g.makes_addWeights axis container sizes
  | preferredSize m => exact g.makes_totalSize m .preferred
  | minimumSize m => exact g.makes_totalSize m _
  | arrange m insets container => exact g.makes_arrange m insets container

/-! A query does not invalidate anything. -/

theorem countP_thenCalls {α : Type} {calls : List Cache.Call} {next : α → List Cache.Call}
    (hcalls : calls.countP Cache.Call.invalidates = 0)
    (hnext : ∀ a, (next a).countP Cache.Call.invalidates = 0) (result : Except LayoutError α) :
    (Cache.thenCalls calls result next).countP Cache.Call.invalidates = 0 := by
  cases result with
  | ok a => rw [Cache.thenCalls, List.countP_append, hcalls, hnext]
  | error fault => exact hcalls

theorem countP_sizingCalls (g : Grid) (m : Measures) (axis : Axis) (container : Int) :
    (g.sizingCalls m axis container).countP Cache.Call.invalidates = 0 := by
  refine countP_thenCalls rfl (fun preferred => ?_) _
  split
  · exact countP_thenCalls rfl (fun _ => rfl) _
  · rfl

theorem countP_calls (q : Query) (g : Grid) : (q.calls g).countP Cache.Call.invalidates = 0 := by
  cases q with
  | validate | totalWeight | cellSizes | groupedSizes | addWeights => rfl
  | sizesIn m axis container => exact countP_sizingCalls g m axis container
  | preferredSize m | minimumSize m => exact countP_thenCalls rfl (fun _ => rfl) _
  | arrange m insets container =>
    exact countP_thenCalls (countP_sizingCalls g m _ _) (fun _ => countP_sizingCalls g m _ _) _

end Query

/-! ## The calls of a history -/

namespace Operation

/-- The calls for an operation on a grid. -/
def calls : Operation → Grid → List Cache.Call
  | .setTrack axis index track, g =>
    match g.setTrack axis index track with
    | .ok _ => [.invalidateWeights]
    | .error _ => []
  | .add .., _ | .clear, _ => [.invalidate]
  | .remove id, g => if g.contains id then [.invalidate] else []
  | .flush, _ => [.invalidate, .invalidateWeights]
  | .ask q, g => q.calls g
  | .addGroup .., _ | .setCanShrink _, _ | .copy, _ => []

/-- The operation changes the registry of the grid or forgets what is kept. -/
def invalidates : Operation → Grid → Bool
  | .add .., _ | .clear, _ | .flush, _ => true
  | .remove id, g => g.contains id
  | .setTrack .., _ | .addGroup .., _ | .setCanShrink _, _ | .copy, _ | .ask _, _ => false

theorem countP_calls (op : Operation) (g : Grid) :
    (op.calls g).countP Cache.Call.invalidates = (op.invalidates g).toNat := by
  cases op with
  | setTrack axis index track =>
    simp only [calls]
    cases g.setTrack axis index track <;> rfl
  | remove id =>
    simp only [calls, invalidates]
    cases g.contains id <;> rfl
  | ask q => exact q.countP_calls g
  | addGroup | setCanShrink | add | clear | flush | copy => rfl

end Operation

namespace Grid

/-- The calls for operations, one after another. -/
def callsOf (g : Grid) : List Operation → List Cache.Call
  | [] => []
  | op :: ops => op.calls g ++ callsOf (g.after op) ops

/-- The number of operations that invalidate. -/
def invalidations (g : Grid) : List Operation → Nat
  | [] => 0
  | op :: ops => (op.invalidates g).toNat + invalidations (g.after op) ops

theorem countP_callsOf (g : Grid) (ops : List Operation) :
    (g.callsOf ops).countP Cache.Call.invalidates = g.invalidations ops := by
  induction ops generalizing g with
  | nil => rfl
  | cons op ops ih => rw [callsOf, invalidations, List.countP_append, op.countP_calls, ih]

end Grid

namespace CachedGrid

variable {g : CachedGrid}

/-- An operation does to the cache what its calls do. -/
theorem cache_after (h : g.cache.Agrees g.grid) (op : Operation) :
    (g.after op).cache = (op.calls g.grid).foldl Cache.after g.cache := by
  cases op with
  | setTrack axis index track =>
    simp only [after, setTrack, Operation.calls]
    cases g.grid.setTrack axis index track <;> rfl
  | remove id =>
    simp only [after, remove, Operation.calls]
    split <;> rfl
  | ask q => exact q.makes_ask g.grid g.cache h
  | addGroup | setCanShrink | add | clear | flush | copy => rfl

/-- **A history does to the cache what its calls do.** -/
theorem cache_foldl_after (h : g.cache.Agrees g.grid) (ops : List Operation) :
    (ops.foldl after g).cache = (g.grid.callsOf ops).foldl Cache.after g.cache := by
  induction ops generalizing g with
  | nil => rfl
  | cons op ops ih =>
    rw [List.foldl_cons, ih (agrees_after h op), Grid.callsOf, List.foldl_append, grid_after,
      cache_after h]

/-! ## Filled as a whole, counted once -/

/-- **A cache is filled as a whole or not at all, and counts every successful validation once.**

* A cache that is not valid gets an ordered partition of the components of a grid, or it stays
  exactly as it is, with the lists that were left in it.
* After any calls a successful validation is counted as a rebuild if it is the first one since the
  last invalidation, and else as a hit; in place the cache looks and answers the same.
* So does the cache of a grid after any operations, with at most one rebuild more than there are
  operations that invalidate. -/
theorem filled_atomically_and_counted :
    (∀ s : FlaggedCache, s.isValid = false → ∀ g : Grid, s.EnsuresAtomically g) ∧
    (∀ calls : List Cache.Call, Cache.CountsValidations calls ∧
      ∃ s, calls.foldlM FlaggedCache.after .empty = some s ∧ s.view = Cache.run calls ∧
        ∀ g, ((FlaggedCache.ensure g).runOn s).map Prod.fst =
          some (g.validate.run (Cache.run calls)).1) ∧
    ∀ (g : Grid) (ops : List Operation),
      (ops.foldl after (.ofGrid g)).cache = Cache.run (g.callsOf ops) ∧
      (ops.foldl after (.ofGrid g)).cache.rebuilds ≤ 1 + g.invalidations ops := by
  refine ⟨fun s h g => s.ensuresAtomically h g,
    fun calls => ⟨Cache.countsValidations calls, FlaggedCache.exists_run calls⟩, fun g ops => ?_⟩
  have hcache : (ops.foldl after (.ofGrid g)).cache = Cache.run (g.callsOf ops) :=
    cache_foldl_after (Cache.agrees_empty g) ops
  refine ⟨hcache, ?_⟩
  rw [hcache, ← g.countP_callsOf]
  exact (Cache.countsValidations _).rebuilds_le

/-- Edits after which the registry is refused once, and put right. -/
def disturbed : List Operation :=
  edits [.totalWeight .horizontal, .validate] [.validate, .validate] ++
    [.add ⟨3⟩ (.single 1 0), .ask .validate, .remove ⟨3⟩, .ask .validate]

/-- A cache with the lists of a larger grid in it is filled for the edited grid, and three rebuilds
of a disturbed grid are due to four changes of its registry. -/
theorem filled_atomically_and_counted_disturbed :
    let s : FlaggedCache := ⟨false, .empty 7 5, .both (some 40), 5, 2⟩
    let g : Grid := (edited [] []).grid
    let start : Grid := ⟨⟨⟨List.replicate 3 .defaultColumn, []⟩, ⟨[.defaultRow], []⟩⟩, [], true⟩
    let cache := (disturbed.foldl after (.ofGrid start)).cache
    (∃ s', (FlaggedCache.ensure g).runOn s = some (.ok (), s') ∧ s'.lists.IsPartition g ∧
      s'.weights = .both (some 40) ∧ s'.hits = 5 ∧ s'.rebuilds = 3) ∧
    cache.hits = 1 ∧ cache.rebuilds = 3 ∧ start.invalidations disturbed = 4 ∧
    cache.rebuilds ≤ 1 + start.invalidations disturbed := by
  intro s g start cache
  have hcheck : g.checkAfter [] g.components = .ok () := by decide +kernel
  have hensures := filled_atomically_and_counted.1 s rfl g
  obtain ⟨s', hrun⟩ := hensures.succeeds_iff.2 (Grid.checkAfter_nil_eq_ok_iff.1 hcheck)
  obtain ⟨hpartition, hs'⟩ := hensures.of_ok s' hrun
  refine ⟨⟨s', hrun, hpartition, ?_, ?_, ?_⟩, by decide +kernel, by decide +kernel,
    by decide +kernel, (filled_atomically_and_counted.2.2 start disturbed).2⟩ <;> rw [hs']

end CachedGrid

end GridLayout

import GridLayout.Proofs.Grid.Scan

/-!
# What a cache may hold

A cache agrees with a grid if what it holds is what would be computed anew: the classification of
the grid, and the sum of the weights along each axis. Every computation with an agreeing cache
gives the result of its plain counterpart and leaves an agreeing cache behind, also when it fails;
`CacheM.Computes` says both at once, and follows the monadic structure of the solver.

* `CacheM.Computes.bind`: computations in sequence.
* `Grid.computes_sizesIn`, `Grid.computes_totalSize` and `Grid.computes_arrange`: the steps of the
  solver compute what the scans of the components find.
-/

namespace GridLayout

/-- What the cache holds is what would be computed anew. -/
structure Cache.Agrees (cache : Cache) (g : Grid) : Prop where
  classification : ∀ c, cache.classification = some c → g.classify = .ok c
  weights : ∀ axis total, cache.weights.along axis = some total → total = g.weightSum axis

namespace Cache

theorem agrees_empty (g : Grid) : empty.Agrees g :=
  ⟨fun _ h => by simp [empty] at h, fun axis _ h => by simp [empty] at h⟩

variable {cache : Cache} {g g' : Grid}

/-- A kept classification is not affected by what the classification does not read. -/
theorem Agrees.of_eq (h : cache.Agrees g) (hclassify : g'.classify = g.classify)
    (hweights : ∀ axis, g'.weightSum axis = g.weightSum axis) : cache.Agrees g' :=
  ⟨fun c hc => hclassify ▸ h.classification c hc,
    fun axis total ht => (hweights axis) ▸ h.weights axis total ht⟩

/-- Without its classification a cache agrees with every grid of the same weights. -/
theorem Agrees.invalidate (h : cache.Agrees g)
    (hweights : ∀ axis, g'.weightSum axis = g.weightSum axis) : cache.invalidate.Agrees g' :=
  ⟨fun _ hc => by simp [Cache.invalidate] at hc,
    fun axis total ht => (hweights axis) ▸ h.weights axis total ht⟩

/-- Without its weights a cache agrees with every grid of the same classification. -/
theorem Agrees.invalidateWeights (h : cache.Agrees g) (hclassify : g'.classify = g.classify) :
    cache.invalidateWeights.Agrees g' :=
  ⟨fun c hc => hclassify ▸ h.classification c hc,
    fun axis _ ht => by simp [Cache.invalidateWeights] at ht⟩

end Cache

/-- In sequence the second computation goes on with what the first one leaves. -/
theorem CacheM.run_bind {α β : Type} (f : CacheM α) (k : α → CacheM β) (cache : Cache) :
    (f >>= k).run cache = match f.run cache with
      | (.ok a, cache') => (k a).run cache'
      | (.error e, cache') => (.error e, cache') := by
  show ExceptT.bindCont k (f.run cache).1 (f.run cache).2 = _
  rcases f.run cache with ⟨_ | _, _⟩ <;> rfl

/-- With every cache that agrees with the grid the computation has the result, and it leaves a
cache that agrees with the grid. -/
def CacheM.Computes {α : Type} (g : Grid) (f : CacheM α) (result : Except LayoutError α) : Prop :=
  ∀ cache : Cache, cache.Agrees g → (f.run cache).1 = result ∧ (f.run cache).2.Agrees g

namespace CacheM.Computes

variable {α β : Type} {g : Grid}

theorem pure (a : α) : Computes g (Pure.pure a) (.ok a) := fun _ h => ⟨rfl, h⟩

theorem ofExcept (result : Except LayoutError α) :
    Computes g (ExceptT.mk (Pure.pure result)) result := fun _ h => ⟨rfl, h⟩

theorem bind {f : CacheM α} {result : Except LayoutError α} {k : α → CacheM β}
    {next : α → Except LayoutError β} (hf : Computes g f result)
    (hk : ∀ a, Computes g (k a) (next a)) : Computes g (f >>= k) (result >>= next) := by
  intro cache h
  obtain ⟨hresult, hagrees⟩ := hf cache h
  rw [run_bind]
  rcases hfrun : f.run cache with ⟨e | a, cache'⟩ <;> rw [hfrun] at hresult hagrees <;>
    subst hresult
  · exact ⟨rfl, hagrees⟩
  · exact hk a cache' hagrees

theorem ite {p : Prop} [Decidable p] {f f' : CacheM α} {result result' : Except LayoutError α}
    (hf : Computes g f result) (hf' : Computes g f' result') :
    Computes g (if p then f else f') (if p then result else result') := by
  split
  · exact hf
  · exact hf'

end CacheM.Computes

namespace Grid

open CacheM

variable (g : Grid) (m : Measures) (pass : Pass) (axis : Axis)

/-! ## Looking up -/

theorem computes_classified : Computes g g.classified g.classify := by
  intro cache h
  rcases hc : cache.classification with _ | c
  · rcases hclassify : g.classify with e | c
    · have hrun : g.classified.run cache = (.error e, cache) := by
        simp only [classified, ExceptT.run, ExceptT.mk, hc, hclassify]
      rw [hrun]
      exact ⟨rfl, h⟩
    · have hrun : g.classified.run cache = (.ok c,
          { cache with classification := some c, rebuilds := cache.rebuilds + 1 }) := by
        simp only [classified, ExceptT.run, ExceptT.mk, hc, hclassify]
      rw [hrun]
      exact ⟨rfl, fun _ hc' => Option.some.inj hc' ▸ hclassify, h.weights⟩
  · have hrun : g.classified.run cache = (.ok c, { cache with hits := cache.hits + 1 }) := by
      simp only [classified, ExceptT.run, ExceptT.mk, hc]
    rw [hrun]
    exact ⟨(h.classification c hc).symm, h.classification, h.weights⟩

theorem computes_totalWeight :
    Computes g (liftM (g.totalWeight axis)) (.ok (g.weightSum axis)) := by
  intro cache h
  have hrun : (liftM (g.totalWeight axis) : CacheM Nat).run cache =
      (.ok (g.totalWeight axis cache).1, (g.totalWeight axis cache).2) := rfl
  rw [hrun]
  rcases hw : cache.weights.along axis with _ | total
  · simp only [totalWeight, hw, true_and]
    refine ⟨h.classification, fun axis' total ht => ?_⟩
    simp only [PerAxis.along_modify] at ht
    split at ht
    · next heq => rw [heq]; exact (Option.some.inj ht).symm
    · exact h.weights axis' total ht
  · simp only [totalWeight, hw]
    exact ⟨congrArg Except.ok (h.weights axis total hw), h⟩

theorem computes_validate : Computes g g.validate g.check := by
  have h := (computes_classified g).bind (fun _ => Computes.pure ())
  have hcheck : (g.classify >>= fun _ => .ok ()) = g.check := by
    rw [← classify_map_unit]
    cases g.classify <;> rfl
  rw [← hcheck]
  exact h

/-! ## The steps of the solver -/

theorem computes_cellSizes : Computes g (g.cellSizes m pass axis)
    (g.check >>= fun _ => .ok (g.scanCellSizes m pass axis)) := by
  have h := (computes_classified g).bind (fun c => Computes.pure (g.sizesFrom m pass axis c))
  have hsizes : (g.classify >>= fun c => .ok (g.sizesFrom m pass axis c)) =
      (g.check >>= fun _ => .ok (g.scanCellSizes m pass axis)) := by
    rw [← classify_map_unit]
    rcases hc : g.classify with e | c
    · rfl
    · exact congrArg Except.ok (sizesFrom_of_classify hc m pass axis)
  rw [← hsizes]
  exact h

theorem computes_groupedSizes :
    Computes g (g.groupedSizes m pass axis) (g.scanGroupedSizes m pass axis) := by
  have h := (computes_cellSizes g m pass axis).bind fun sizes =>
    Computes.ofExcept (applyGroups (g.groups axis) sizes)
  have hassoc : ((g.check >>= fun _ => .ok (g.scanCellSizes m pass axis)) >>= fun sizes =>
      applyGroups (g.groups axis) sizes) = g.scanGroupedSizes m pass axis := by
    unfold scanGroupedSizes
    cases g.check <;> rfl
  rw [← hassoc]
  exact h

theorem computes_addWeights (container : Int) (sizes : List Int) :
    Computes g (liftM (g.addWeights axis container sizes))
      (.ok (shareOut sizes container (g.tracks axis) (g.weightSum axis))) :=
  (computes_totalWeight g axis).bind fun weights =>
    Computes.pure (shareOut sizes container (g.tracks axis) weights)

theorem computes_sizesIn (container : Int) :
    Computes g (g.sizesIn m axis container) (g.scanSizesIn m axis container) := by
  refine (computes_groupedSizes g m .preferred axis).bind fun preferred => ?_
  exact Computes.ite
    ((computes_groupedSizes g m .minimum axis).bind (computes_addWeights g axis container))
    ((Computes.pure preferred).bind (computes_addWeights g axis container))

theorem computes_totalSize : Computes g (g.totalSize m pass) (g.scanTotalSize m pass) :=
  (computes_groupedSizes g m pass .horizontal).bind fun columns =>
    (computes_groupedSizes g m pass .vertical).bind fun rows =>
      Computes.pure (Size.mk (wrap (total columns)) (wrap (total rows)))

theorem computes_arrange (insets : Insets) (container : Size) :
    Computes g (g.arrange m insets container) (g.scanArrange m insets container) := by
  refine (computes_sizesIn g m .horizontal _).bind fun columns => ?_
  refine (computes_sizesIn g m .vertical _).bind fun rows => ?_
  exact (Computes.ofExcept _).bind fun bounds => Computes.pure _

end Grid

end GridLayout

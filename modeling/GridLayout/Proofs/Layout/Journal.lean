import GridLayout.Journal
import GridLayout.Proofs.Grid.Agreement

/-!
# What a journal tells

The journal of a computation is derived beside it, from the same grid, cache and platform. Here the
two are tied together: a journal tells of as many classifications as the cache counts, of shrinking
exactly along an axis that is shrunk, of the layout exactly if there is one, and of the rectangles
that the platform is given.

* `CacheM.IsTold`: a journal that goes with a computation which finds sizes. It follows the monadic
  structure of the solver, as `CacheM.Computes` does.
* `Journal.rebuilds_arranged`: the events of classification are the rebuilds of the cache.
* `Journal.cannotEnlarge_mem_accommodated_iff` and `Journal.shrinking_mem_sizedIn_iff`: when a
  component is told to lack room, and when an axis is told to be shrunk.
* `Journal.arranged_mem_iff`: a layout is told exactly if it succeeds, with its sizes.
* `Journal.perform_eq_setAllBounds`: the platform is given the rectangles of the journal.
-/

namespace GridLayout

namespace Event

/-- The event is a remark on the components while room is made for them. -/
def IsRemark : Event → Prop
  | unknownComponent _ | cannotEnlarge .. => True
  | boundsGiven .. | classified .. | shrinking .. | arranged .. | borderGridBuilt _ => False

/-- The event may happen while the sizes of tracks are found. -/
def IsOfSearch : Event → Prop
  | unknownComponent _ | cannotEnlarge .. | classified .. | shrinking .. => True
  | boundsGiven .. | arranged .. | borderGridBuilt _ => False

theorem IsRemark.isOfSearch {event : Event} (h : event.IsRemark) : event.IsOfSearch := by
  cases event <;> trivial

/-- The event is a classification, which fills the cache. -/
def isRebuild : Event → Bool
  | classified .. => true
  | _ => false

/-- The rectangle that a component is given. -/
def given? : Event → Option (ComponentId × Rect)
  | boundsGiven id r => some (id, r)
  | _ => none

theorem IsRemark.isRebuild {event : Event} (h : event.IsRemark) : event.isRebuild = false := by
  cases event <;> first | rfl | exact h.elim

theorem IsOfSearch.given? {event : Event} (h : event.IsOfSearch) : event.given? = none := by
  cases event <;> first | rfl | exact h.elim

end Event

namespace Journal

/-! ## What is read from a journal -/

/-- How often the cache is filled. -/
def rebuilds (events : List Event) : Nat := events.countP Event.isRebuild

/-- The rectangles given out, in order. -/
def given (events : List Event) : List (ComponentId × Rect) := events.filterMap Event.given?

@[simp] theorem rebuilds_append (events later : List Event) :
    rebuilds (events ++ later) = rebuilds events + rebuilds later :=
  List.countP_append

@[simp] theorem given_append (events later : List Event) :
    given (events ++ later) = given events ++ given later :=
  List.filterMap_append

theorem rebuilds_eq_zero {events : List Event} (h : ∀ event ∈ events, event.IsRemark) :
    rebuilds events = 0 :=
  List.countP_eq_zero.2 fun event hevent => by simp [(h event hevent).isRebuild]

theorem given_eq_nil {events : List Event} (h : ∀ event ∈ events, event.IsOfSearch) :
    given events = [] :=
  List.filterMap_eq_nil_iff.2 fun event hevent => (h event hevent).given?

/-! ## Remarks -/

section

variable (p : Platform) (g : Grid) (axis : Axis)

theorem isRemark_of_mem_lookedUp {id : ComponentId} {event : Event} (h : event ∈ lookedUp p id) :
    event.IsRemark := by
  unfold lookedUp at h
  split at h
  · rw [List.mem_singleton.1 h]
    trivial
  · cases h

theorem isRemark_of_mem_claimed {e : Entry} {event : Event} (h : event ∈ claimed p g axis e) :
    event.IsRemark := by
  unfold claimed at h
  split at h
  · cases h
  · exact isRemark_of_mem_lookedUp p h

theorem isRemark_of_mem_aligned {sizes : List Int} {e : Entry} {event : Event}
    (h : event ∈ aligned p g axis sizes e) : event.IsRemark := by
  simp only [aligned] at h
  split at h
  · cases h
  · exact isRemark_of_mem_claimed p g axis h

theorem isRemark_of_mem_accommodated {pass : Pass} {entries : List Entry} {event : Event} :
    ∀ {sizes : List Int}, event ∈ accommodated p g pass axis sizes entries → event.IsRemark := by
  induction entries with
  | nil => exact fun h => nomatch h
  | cons e rest ih =>
    intro sizes h
    rw [accommodated] at h
    rcases List.mem_append.1 h with h | h
    · rcases List.mem_append.1 h with h | h
      · exact isRemark_of_mem_claimed p g axis h
      · split at h
        · rw [List.mem_singleton.1 h]
          trivial
        · cases h
    · exact ih h

/-- Sizing the tracks of an axis is told as a validation and remarks. -/
theorem sized_eq (cache : Cache) (pass : Pass) : ∃ remarks,
    sized p g cache pass axis = validated g cache ++ remarks ∧
      ∀ event ∈ remarks, event.IsRemark := by
  refine ⟨_, rfl, fun event hevent => ?_⟩
  split at hevent
  · cases hevent
  · rcases List.mem_append.1 hevent with h | h
    · obtain ⟨i, -, h⟩ := List.mem_flatMap.1 h
      obtain ⟨e, -, h⟩ := List.mem_flatMap.1 h
      exact isRemark_of_mem_claimed p g axis h
    · exact isRemark_of_mem_accommodated p g axis h

end

end Journal

/-! ## Journals beside computations -/

/-- The journal goes with the computation, with every cache: it tells of as many classifications as
the cache then counts more, and only of what happens while sizes are found. -/
structure CacheM.IsTold {α : Type} (f : CacheM α) (journal : Cache → List Event) : Prop where
  rebuilds : ∀ cache, (f.run cache).2.rebuilds = cache.rebuilds + Journal.rebuilds (journal cache)
  isOfSearch : ∀ cache, ∀ event ∈ journal cache, event.IsOfSearch

namespace CacheM.IsTold

variable {α β : Type}

/-- In sequence the journal goes on, if there is something to go on with. -/
theorem bind {f : CacheM α} {k : α → CacheM β} {journal told : Cache → List Event}
    {next : α → Cache → List Event} (hf : IsTold f journal) (hk : ∀ a, IsTold (k a) (next a))
    (hok : ∀ cache a cache', f.run cache = (.ok a, cache') →
      told cache = journal cache ++ next a cache')
    (herror : ∀ cache fault cache', f.run cache = (.error fault, cache') →
      told cache = journal cache) : IsTold (f >>= k) told := by
  constructor <;> intro cache
  · have hrebuilds := hf.rebuilds cache
    rw [run_bind]
    rcases hrun : f.run cache with ⟨fault | a, cache'⟩ <;> rw [hrun] at hrebuilds
    · rw [herror cache fault cache' hrun]
      exact hrebuilds
    · rw [hok cache a cache' hrun, Journal.rebuilds_append, ← Nat.add_assoc, ← hrebuilds]
      exact (hk a).rebuilds cache'
  · intro event hevent
    rcases hrun : f.run cache with ⟨fault | a, cache'⟩
    · exact hf.isOfSearch cache event (herror cache fault cache' hrun ▸ hevent)
    · rw [hok cache a cache' hrun] at hevent
      rcases List.mem_append.1 hevent with h | h
      · exact hf.isOfSearch cache event h
      · exact (hk a).isOfSearch cache' event h

/-- What is silent adds nothing to the journal. -/
theorem bind_silent {f : CacheM α} {k : α → CacheM β} {journal : Cache → List Event}
    (hf : IsTold f journal) (hk : ∀ a, IsTold (k a) fun _ => []) : IsTold (f >>= k) journal :=
  hf.bind hk (fun _ _ _ _ => (List.append_nil _).symm) fun _ _ _ _ => rfl

theorem pure (a : α) : IsTold (Pure.pure a) fun _ => [] := ⟨fun _ => rfl, fun _ _ h => nomatch h⟩

theorem ofExcept (result : Except LayoutError α) :
    IsTold (ExceptT.mk (Pure.pure result)) fun _ => [] :=
  ⟨fun _ => rfl, fun _ _ h => nomatch h⟩

theorem ite {c : Prop} [Decidable c] {f f' : CacheM α} {journal journal' : Cache → List Event}
    (hf : IsTold f journal) (hf' : IsTold f' journal') :
    IsTold (if c then f else f') fun cache => if c then journal cache else journal' cache := by
  split
  · exact hf
  · exact hf'

/-- Remarks may be added. -/
theorem append_remarks {f : CacheM α} {journal told : Cache → List Event} (hf : IsTold f journal)
    (h : ∀ cache, ∃ remarks, told cache = journal cache ++ remarks ∧
      ∀ event ∈ remarks, event.IsRemark) : IsTold f told := by
  constructor <;> intro cache <;> obtain ⟨remarks, htold, hremarks⟩ := h cache <;> rw [htold]
  · rw [Journal.rebuilds_append, Journal.rebuilds_eq_zero hremarks, hf.rebuilds cache, Nat.add_zero]
  · intro event hevent
    rcases List.mem_append.1 hevent with h | h
    · exact hf.isOfSearch cache event h
    · exact (hremarks event h).isOfSearch

/-- An event of shrinking may be added before. -/
theorem shrinking {f : CacheM α} {journal : Cache → List Event} (hf : IsTold f journal)
    (axis : Axis) (required available : Int) :
    IsTold f fun cache => .shrinking axis required available :: journal cache := by
  refine ⟨hf.rebuilds, fun cache event hevent => ?_⟩
  rcases List.mem_cons.1 hevent with rfl | h
  · trivial
  · exact hf.isOfSearch cache event h

end CacheM.IsTold

namespace Grid

open CacheM Journal

variable (p : Platform) (g : Grid) (pass : Pass) (axis : Axis)

theorem isTold_classified : IsTold g.classified (validated g) := by
  constructor <;> intro cache
  · rcases hc : cache.classification with _ | c
    · rcases hclassify : g.classify with fault | c <;>
        simp only [classified, ExceptT.run, ExceptT.mk, validated, hc, hclassify] <;> rfl
    · simp only [classified, ExceptT.run, ExceptT.mk, validated, hc]
      rfl
  · intro event hevent
    unfold validated at hevent
    split at hevent
    · rw [List.mem_singleton.1 hevent]
      trivial
    · cases hevent

theorem isTold_groupedSizes :
    IsTold (g.groupedSizes p.measures pass axis) fun cache => sized p g cache pass axis := by
  have hsizes : IsTold (g.groupedSizes p.measures pass axis) (validated g) :=
    ((isTold_classified g).bind_silent fun _ => .pure _).bind_silent fun _ => .ofExcept _
  exact hsizes.append_remarks fun cache => sized_eq p g axis cache pass

/-- Sharing out the space only looks up the weights. -/
theorem isTold_addWeights (container : Int) (sizes : List Int) :
    IsTold (liftM (g.addWeights axis container sizes) : CacheM (List Int)) fun _ => [] := by
  refine ⟨fun cache => ?_, fun _ _ h => nomatch h⟩
  have hrun : ((liftM (g.addWeights axis container sizes) : CacheM (List Int)).run cache).2 =
      (g.totalWeight axis cache).2 := rfl
  rw [hrun]
  unfold totalWeight
  split <;> rfl

theorem isTold_sizesIn (container : Int) : IsTold (g.sizesIn p.measures axis container)
    fun cache => sizedIn p g cache axis container := by
  have hnext (preferred : List Int) := IsTold.ite
    (c := container < wrap (total preferred) ∧ g.canShrink)
    (((isTold_groupedSizes p g .minimum axis).shrinking axis (wrap (total preferred))
      container).bind_silent (isTold_addWeights g axis container))
    ((IsTold.pure preferred).bind_silent (isTold_addWeights g axis container))
  refine (isTold_groupedSizes p g .preferred axis).bind hnext
    (fun cache preferred cache' hrun => ?_) (fun cache fault cache' hrun => ?_)
  · rw [sizedIn, hrun]
  · rw [sizedIn, hrun, List.append_nil]

theorem isTold_totalSize : IsTold (g.totalSize p.measures pass)
    fun cache => totalled p g cache pass := by
  refine (isTold_groupedSizes p g pass .horizontal).bind (fun columns =>
    (isTold_groupedSizes p g pass .vertical).bind_silent fun rows => .pure _)
    (fun cache columns cache' hrun => ?_) (fun cache fault cache' hrun => ?_)
  · rw [totalled, hrun]
  · rw [totalled, hrun, List.append_nil]

end Grid

namespace Journal

/-! ## Skipped enlargements -/

/-- A component is told to lack room exactly if it claims more than the tracks under it have when
its turn comes, and all of them are fixed. -/
theorem cannotEnlarge_mem_accommodated_iff (p : Platform) (g : Grid) (pass : Pass) (axis : Axis)
    {id : ComponentId} {required available : Int} {entries : List Entry} : ∀ {sizes : List Int},
    .cannotEnlarge id required available ∈ accommodated p g pass axis sizes entries ↔
      ∃ before e after, entries = before ++ e :: after ∧ e.id = id ∧
        required = g.claim p.measures pass axis e ∧
        available = wrap ((e.placement.along axis).extent
          (before.foldl (g.accommodate p.measures pass axis) sizes)) ∧
        available < required ∧ (e.placement.along axis).elastic (g.tracks axis) = [] := by
  induction entries with
  | nil => simp [accommodated]
  | cons e rest ih =>
    intro sizes
    have hclaimed : ¬Event.cannotEnlarge id required available ∈ claimed p g axis e := by
      unfold claimed lookedUp
      split
      · simp
      · split <;> simp
    rw [accommodated, List.mem_append, List.mem_append, or_iff_right hclaimed, ih]
    constructor
    · rintro (h | ⟨before, e', after, rfl, h⟩)
      · split at h
        · next hc =>
          simp only [List.mem_singleton, Event.cannotEnlarge.injEq] at h
          obtain ⟨rfl, rfl, rfl⟩ := h
          exact ⟨[], e, rest, rfl, rfl, rfl, rfl, hc.1, List.isEmpty_iff.1 hc.2⟩
        · cases h
      · exact ⟨e :: before, e', after, rfl, h⟩
    · rintro ⟨_ | ⟨first, before⟩, e', after, heq, rfl, rfl, rfl, hlt, helastic⟩
      · obtain ⟨rfl, rfl⟩ := List.cons.inj heq
        refine .inl ?_
        rw [if_pos ⟨hlt, List.isEmpty_iff.2 helastic⟩]
        exact List.mem_singleton_self _
      · obtain ⟨rfl, rfl⟩ := List.cons.inj heq
        exact .inr ⟨before, e', after, rfl, rfl, rfl, rfl, hlt, helastic⟩

/-! ## Shrinking -/

/-- Finding the sizes in one pass tells nothing of shrinking. -/
theorem shrinking_not_mem_sized (p : Platform) (g : Grid) (cache : Cache) (pass : Pass)
    (axis axis' : Axis) (required available : Int) :
    .shrinking axis' required available ∉ sized p g cache pass axis := by
  obtain ⟨remarks, heq, hremarks⟩ := sized_eq p g axis cache pass
  rw [heq, List.mem_append]
  rintro (h | h)
  · unfold validated at h
    split at h <;> simp at h
  · exact hremarks _ h

/-- **When an axis is told to be shrunk**: if its tracks prefer more than there is, and the grid may
shrink. -/
theorem shrinking_mem_sizedIn_iff (p : Platform) (g : Grid) (cache : Cache) (axis : Axis)
    (container : Int) {axis' : Axis} {required available : Int} :
    .shrinking axis' required available ∈ sizedIn p g cache axis container ↔
      axis' = axis ∧ available = container ∧ available < required ∧ g.canShrink = true ∧
        ∃ preferred, ((g.groupedSizes p.measures .preferred axis).run cache).1 = .ok preferred ∧
          required = wrap (total preferred) := by
  have hsized := shrinking_not_mem_sized p g cache .preferred axis axis' required available
  rw [sizedIn, List.mem_append, or_iff_right hsized]
  rcases hrun : (g.groupedSizes p.measures .preferred axis).run cache with
    ⟨fault | preferred, cache'⟩
  · simp
  · have hminimum := shrinking_not_mem_sized p g cache' .minimum axis axis' required available
    simp only [Except.ok.injEq, exists_eq_left']
    constructor
    · intro h
      split at h
      · next hc =>
        rw [List.mem_cons, or_iff_left hminimum, Event.shrinking.injEq] at h
        obtain ⟨rfl, rfl, rfl⟩ := h
        exact ⟨rfl, rfl, hc.1, hc.2, rfl⟩
      · cases h
    · rintro ⟨rfl, rfl, hlt, hshrink, rfl⟩
      rw [if_pos ⟨hlt, hshrink⟩]
      exact List.mem_cons_self

/-! ## Laying out -/

section

variable (p : Platform) (insets : Insets) (container : Size) (g : Grid) (cache : Cache)

/-- The part of the journal before there are rectangles. -/
def searched : List Event :=
  let content := insets.shrink container
  sizedIn p g cache .horizontal content.width ++
    match (g.sizesIn p.measures .horizontal content.width).run cache with
    | (.error _, _) => []
    | (.ok _, cache') => sizedIn p g cache' .vertical content.height

/-- A layout is told as the search for its sizes and, if there is one, what is given out. -/
theorem arranged_eq : arranged p insets container g cache =
    searched p insets container g cache ++
      match ((g.arrange p.measures insets container).run cache).1 with
      | .error _ => []
      | .ok a => finished p g container a := by
  rcases hrun : (g.sizesIn p.measures .horizontal (insets.shrink container).width).run cache with
    ⟨fault | columns, cache'⟩
  · have herror : ((g.arrange p.measures insets container).run cache).1 = .error fault := by
      rw [Grid.arrange, CacheM.run_bind, hrun]
    simp only [arranged, searched, hrun, herror, List.append_nil]
  · simp only [arranged, searched, hrun]
    exact (List.append_assoc ..).symm

theorem isTold_arrange : CacheM.IsTold (g.arrange p.measures insets container)
    (searched p insets container g) := by
  refine (g.isTold_sizesIn p .horizontal _).bind (fun columns =>
    (g.isTold_sizesIn p .vertical _).bind_silent fun rows =>
      (CacheM.IsTold.ofExcept _).bind_silent fun bounds => .pure _)
    (fun cache columns cache' hrun => ?_) (fun cache fault cache' hrun => ?_)
  · simp only [searched, hrun]
  · simp only [searched, hrun, List.append_nil]

/-- Placing the components tells only remarks on them. -/
theorem isRemark_of_mem_placed (sizes : PerAxis (List Int)) (event : Event)
    (h : event ∈ g.components.flatMap fun e =>
      aligned p g .horizontal sizes.horizontal e ++ aligned p g .vertical sizes.vertical e) :
    event.IsRemark := by
  obtain ⟨e, -, h⟩ := List.mem_flatMap.1 h
  rcases List.mem_append.1 h with h | h
  · exact isRemark_of_mem_aligned p g .horizontal h
  · exact isRemark_of_mem_aligned p g .vertical h

theorem rebuilds_finished (a : Arrangement) : rebuilds (finished p g container a) = 0 := by
  have hbounds : rebuilds (a.bounds.map fun entry => .boundsGiven entry.1 entry.2) = 0 :=
    List.countP_eq_zero.2 fun event hevent => by
      obtain ⟨entry, -, rfl⟩ := List.mem_map.1 hevent
      exact Bool.false_ne_true
  rw [finished, rebuilds_append, rebuilds_append, hbounds,
    rebuilds_eq_zero (isRemark_of_mem_placed p g a.sizes)]
  rfl

theorem given_finished (a : Arrangement) : given (finished p g container a) = a.bounds := by
  have hbounds : given (a.bounds.map fun entry => .boundsGiven entry.1 entry.2) = a.bounds := by
    rw [given, List.filterMap_map]
    exact List.filterMap_some
  have hplaced := given_eq_nil fun event hevent =>
    (isRemark_of_mem_placed p g a.sizes event hevent).isOfSearch
  rw [finished, given_append, given_append, hplaced, hbounds]
  exact List.append_nil _

theorem arranged_mem_finished_iff (a : Arrangement) {size : Size} {sizes : PerAxis (List Int)} :
    .arranged size sizes ∈ finished p g container a ↔ size = container ∧ sizes = a.sizes := by
  have hplaced := isRemark_of_mem_placed p g a.sizes (.arranged size sizes)
  have hbounds : .arranged size sizes ∉
      a.bounds.map fun entry => Event.boundsGiven entry.1 entry.2 := by
    simp
  rw [finished, List.mem_append, List.mem_append, or_iff_right (not_or.2 ⟨hplaced, hbounds⟩),
    List.mem_singleton, Event.arranged.injEq]

/-- **The classifications told are the rebuilds of the cache**, whether the layout succeeds or
not. -/
theorem rebuilds_arranged : ((g.arrange p.measures insets container).run cache).2.rebuilds =
    cache.rebuilds + rebuilds (arranged p insets container g cache) := by
  rw [(isTold_arrange p insets container g).rebuilds, arranged_eq, rebuilds_append]
  split
  · rfl
  · rw [rebuilds_finished]
    rfl

/-- **The rectangles told are those of the layout**, and a failure tells none. -/
theorem given_arranged : given (arranged p insets container g cache) =
    match ((g.arrange p.measures insets container).run cache).1 with
    | .error _ => []
    | .ok a => a.bounds := by
  rw [arranged_eq, given_append,
    given_eq_nil ((isTold_arrange p insets container g).isOfSearch cache)]
  split
  · rfl
  · exact given_finished p container g _

/-- **A layout is told exactly if it succeeds**, with its container and its sizes. -/
theorem arranged_mem_iff {size : Size} {sizes : PerAxis (List Int)} :
    .arranged size sizes ∈ arranged p insets container g cache ↔ size = container ∧
      ∃ a, ((g.arrange p.measures insets container).run cache).1 = .ok a ∧ sizes = a.sizes := by
  have hsearch : .arranged size sizes ∉ searched p insets container g cache :=
    (isTold_arrange p insets container g).isOfSearch cache _
  rw [arranged_eq, List.mem_append, or_iff_right hsearch]
  split
  · next heq => simp [heq]
  · next a heq =>
    rw [arranged_mem_finished_iff]
    simp [heq]

end

/-- **The platform is given the rectangles of the journal**, in order, also by a layout that has to
make its grid first. -/
theorem perform_eq_setAllBounds (l : Layout) (p : Platform) (insets : Insets) (container : Size) :
    (l.perform p insets container).2.2 =
      p.setAllBounds (given (onGrid l (arranged p insets container))) := by
  have hobtained : given (obtained l) = [] := by
    unfold obtained built
    split
    · split <;> rfl
    · rfl
  rw [onGrid, given_append, hobtained, List.nil_append, Layout.perform, Layout.onGrid]
  rcases l.ensureGrid with fault | g
  · rfl
  · simp only [given_arranged, CachedGrid.run]
    rcases (g.grid.arrange p.measures insets container).run g.cache with ⟨fault | a, cache⟩ <;> rfl

end Journal

end GridLayout

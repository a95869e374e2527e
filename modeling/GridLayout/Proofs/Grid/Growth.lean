import GridLayout.Proofs.Grid.Fits
import GridLayout.Proofs.Sizing.Enlargement
import GridLayout.Proofs.Sizing.Equalization

/-!
# How sizes grow

A size starts with what its own components claim and only grows from there: components of several
tracks enlarge the elastic tracks under them, and groups enlarge their members. So every claim that
is met once stays met.

* `Grid.PassFits`: room is made for all components of several tracks in 32 bits. Otherwise a track
  may be cut, and what follows fails.
* `Grid.minimum_le_equalizedSizes`: no track is smaller than its least size.
* `Grid.claim_le_extent_equalizedSizes`: a component has what it claims, if it covers a single track
  or an elastic one (`Entry.CanStretch`).
* `Grid.getD_equalizedSizes_of_fixed`: a fixed track has its least size, unless a group or a
  component of its own claims more.
* `Grid.scanGroupedSizes_eq_ok_iff`: when there are sizes with groups, and which they are.
-/

namespace GridLayout

open Finset

/-- The tracks that the entry covers. -/
def Entry.cells (axis : Axis) (e : Entry) : Finset Nat :=
  Ico (e.placement.along axis).start (e.placement.along axis).stop

/-- The entry covers a single track, or one that is not fixed. -/
def Entry.CanStretch (g : Grid) (axis : Axis) (e : Entry) : Prop :=
  (e.placement.along axis).span = 1 ∨
    ∃ i, (e.placement.along axis).Covers i ∧
      ∃ track, (g.tracks axis)[i]? = some track ∧ track.sizing ≠ .fixed

theorem Entry.CanStretch.elastic_ne_nil {g : Grid} {axis : Axis} {e : Entry}
    (h : e.CanStretch g axis) (hspan : (e.placement.along axis).span ≠ 1) :
    (e.placement.along axis).elastic (g.tracks axis) ≠ [] := by
  obtain hone | ⟨i, hi⟩ := h
  · exact absurd hone hspan
  · exact List.ne_nil_of_mem (Slot.mem_elastic.2 hi)

/-- No length is no pixels. -/
theorem toPixels_zero (metrics : Metrics) (axis : Axis) :
    Length.zero.toPixels metrics axis = 0 := by
  change Binary64.zero.roundToPixel = 0
  decide +kernel

namespace Grid

variable (g : Grid) (m : Measures) (pass : Pass) (axis : Axis)

/-! ## Base sizes -/

/-- The base size is the least one that is large enough for the track and its own components. -/
theorem baseSize_le_iff (track : Track) (entries : List Entry) (size : Int) :
    g.baseSize m pass axis track entries ≤ size ↔
      track.minimum.toPixels m.metrics axis ≤ size ∧
        ∀ e ∈ entries, g.claim m pass axis e ≤ size := by
  have h : ∀ start : Int, entries.foldl (fun size e => max size (g.claim m pass axis e)) start ≤
      size ↔ start ≤ size ∧ ∀ e ∈ entries, g.claim m pass axis e ≤ size := by
    induction entries with
    | nil => simp
    | cons e entries ih =>
      intro start
      rw [List.foldl_cons, ih, max_le_iff, List.forall_mem_cons, and_assoc]
  exact h _

theorem minimum_le_baseSize (track : Track) (entries : List Entry) :
    track.minimum.toPixels m.metrics axis ≤ g.baseSize m pass axis track entries :=
  ((g.baseSize_le_iff m pass axis track entries _).1 le_rfl).1

/-- A track whose own components claim no more than its least size starts with that. -/
theorem baseSize_eq_minimum (track : Track) {entries : List Entry}
    (h : ∀ e ∈ entries, g.claim m pass axis e ≤ track.minimum.toPixels m.metrics axis) :
    g.baseSize m pass axis track entries = track.minimum.toPixels m.metrics axis :=
  le_antisymm ((g.baseSize_le_iff m pass axis track entries _).2 ⟨le_rfl, h⟩)
    (g.minimum_le_baseSize m pass axis track entries)

theorem claim_le_baseSize (track : Track) {entries : List Entry} {e : Entry} (he : e ∈ entries) :
    g.claim m pass axis e ≤ g.baseSize m pass axis track entries :=
  ((g.baseSize_le_iff m pass axis track entries _).1 le_rfl).2 e he

@[simp] theorem length_scanBaseSizes :
    (g.scanBaseSizes m pass axis).length = g.count axis := by
  simp [scanBaseSizes, count]

theorem getD_scanBaseSizes {i : Nat} {track : Track} (h : (g.tracks axis)[i]? = some track) :
    (g.scanBaseSizes m pass axis).getD i 0 =
      g.baseSize m pass axis track (g.aloneIn axis i) := by
  simp [scanBaseSizes, List.getD_eq_getElem?_getD, h]

/-- A component that measures no more claims no more. -/
theorem claim_le_claim {m m' : Measures} {pass pass' : Pass} (hmetrics : m.metrics = m'.metrics)
    {e : Entry} (hminimum : m.minimum e.id axis ≤ m'.minimum e.id axis)
    (hextent : m.extent pass e.id axis ≤ m'.extent pass' e.id axis) :
    g.claim m pass axis e ≤ g.claim m' pass' axis e := by
  unfold claim
  rw [hmetrics]
  refine max_le_max ?_ le_rfl
  split
  · exact le_rfl
  · exact hminimum
  · exact hextent

/-- If no component claims more, no track starts with more. -/
theorem getD_scanBaseSizes_le {m m' : Measures} {pass pass' : Pass}
    (hmetrics : m.metrics = m'.metrics)
    (hclaims : ∀ e ∈ g.components, g.claim m pass axis e ≤ g.claim m' pass' axis e) (i : Nat) :
    (g.scanBaseSizes m pass axis).getD i 0 ≤ (g.scanBaseSizes m' pass' axis).getD i 0 := by
  cases htrack : (g.tracks axis)[i]? with
  | none => simp [scanBaseSizes, List.getD_eq_getElem?_getD, htrack]
  | some track =>
    rw [g.getD_scanBaseSizes m pass axis htrack, g.getD_scanBaseSizes m' pass' axis htrack,
      baseSize_le_iff, hmetrics]
    refine ⟨g.minimum_le_baseSize m' pass' axis track _, fun e he => ?_⟩
    have hclaim := hclaims e (List.mem_filter.1 he).1
    exact hclaim.trans (g.claim_le_baseSize m' pass' axis track he)

/-! ## Spanning components -/

theorem changedAt_foldl_accommodate (entries : List Entry) (sizes : List Int) :
    ChangedAt (fun i => ∃ e ∈ entries, i ∈ (e.placement.along axis).elastic (g.tracks axis)) sizes
      (entries.foldl (g.accommodate m pass axis) sizes) := by
  induction entries generalizing sizes with
  | nil => exact .refl sizes
  | cons e entries ih =>
    have hfirst := g.changedAt_accommodate m pass axis sizes e
    have hrest := ih (g.accommodate m pass axis sizes e)
    refine (hfirst.mono fun i hi => ?_).trans (hrest.mono fun i hi => ?_)
    · exact ⟨e, by simp, hi⟩
    · obtain ⟨other, hother, hi⟩ := hi
      exact ⟨other, List.mem_cons_of_mem e hother, hi⟩

theorem changedAt_scanCellSizes :
    ChangedAt (fun i => ∃ e ∈ g.spanning axis, i ∈ (e.placement.along axis).elastic (g.tracks axis))
      (g.scanBaseSizes m pass axis) (g.scanCellSizes m pass axis) :=
  g.changedAt_foldl_accommodate m pass axis _ _

@[simp] theorem length_scanCellSizes :
    (g.scanCellSizes m pass axis).length = g.count axis := by
  rw [(g.changedAt_scanCellSizes m pass axis).length_eq, length_scanBaseSizes]

/-- Room is made for components in 32 bits, one after another. -/
def RoomFitsInTurn : List Entry → List Int → Prop
  | [], _ => True
  | e :: entries, sizes =>
    g.RoomFits m pass axis sizes e ∧ RoomFitsInTurn entries (g.accommodate m pass axis sizes e)

instance decidableRoomFitsInTurn (entries : List Entry) (sizes : List Int) :
    Decidable (g.RoomFitsInTurn m pass axis entries sizes) :=
  match entries with
  | [] => .isTrue trivial
  | e :: entries =>
    have := decidableRoomFitsInTurn entries (g.accommodate m pass axis sizes e)
    inferInstanceAs (Decidable (_ ∧ _))

/-- A pass makes room for all components of several tracks of an axis in 32 bits. -/
def PassFits : Prop :=
  g.RoomFitsInTurn m pass axis (g.spanning axis) (g.scanBaseSizes m pass axis)

instance : Decidable (g.PassFits m pass axis) :=
  g.decidableRoomFitsInTurn m pass axis _ _

section

variable {g m pass axis}

theorem roomFitsInTurn_append {entries entries' : List Entry} {sizes : List Int} :
    g.RoomFitsInTurn m pass axis (entries ++ entries') sizes ↔
      g.RoomFitsInTurn m pass axis entries sizes ∧
        g.RoomFitsInTurn m pass axis entries'
          (entries.foldl (g.accommodate m pass axis) sizes) := by
  induction entries generalizing sizes with
  | nil => simp [RoomFitsInTurn]
  | cons e entries ih => simp [RoomFitsInTurn, ih, and_assoc]

/-- In 32 bits no track gets smaller. -/
theorem grownAt_foldl_accommodate {entries : List Entry} {sizes : List Int}
    (hfit : g.RoomFitsInTurn m pass axis entries sizes) :
    GrownAt (fun i => ∃ e ∈ entries, i ∈ (e.placement.along axis).elastic (g.tracks axis)) sizes
      (entries.foldl (g.accommodate m pass axis) sizes) := by
  refine ⟨g.changedAt_foldl_accommodate m pass axis entries sizes, fun i => ?_⟩
  induction entries generalizing sizes with
  | nil => exact le_rfl
  | cons e entries ih => exact ((grownAt_accommodate hfit.1).le i).trans (ih hfit.2)

/-- No component adds more to the total than it claims. -/
theorem total_accommodate_le {sizes : List Int} {e : Entry} (hfit : g.RoomFits m pass axis sizes e)
    (hlen : sizes.length = g.count axis) (hnonneg : ∀ i, 0 ≤ sizes.getD i 0)
    (hstop : (e.placement.along axis).stop ≤ g.count axis) :
    total (g.accommodate m pass axis sizes e) ≤ total sizes + max 0 (g.claim m pass axis e) := by
  by_cases helastic : (e.placement.along axis).elastic (g.tracks axis) = []
  · rw [accommodate_of_elastic_eq_nil _ _ _ _ helastic]
    omega
  · have hcells : e.cells axis ⊆ range sizes.length := fun i hi =>
      mem_range.2 ((mem_Ico.1 hi).2.trans_le (hlen ▸ hstop))
    have hpos := (e.placement.along axis).extent_nonneg hnonneg
    rw [total_eq_sum, (grownAt_accommodate hfit).length_eq,
      sum_accommodate hfit hlen helastic hcells, ← total_eq_sum]
    omega

/-- Where no size is negative, 32 bits hold everything if they hold the total and all claims
together. No more than these are added to the total. -/
theorem roomFitsInTurn_of_sum_le {entries : List Entry} {sizes : List Int}
    (hlen : sizes.length = g.count axis) (hnonneg : ∀ i, 0 ≤ sizes.getD i 0)
    (hinside : ∀ e ∈ entries, (e.placement.along axis).stop ≤ g.count axis)
    (hsum : total sizes + (entries.map fun e => max 0 (g.claim m pass axis e)).sum ≤ 2147483647) :
    g.RoomFitsInTurn m pass axis entries sizes ∧
      total (entries.foldl (g.accommodate m pass axis) sizes) ≤
        total sizes + (entries.map fun e => max 0 (g.claim m pass axis e)).sum := by
  induction entries generalizing sizes with
  | nil => exact ⟨trivial, by simp⟩
  | cons e entries ih =>
    obtain ⟨hstop, hinside⟩ := List.forall_mem_cons.1 hinside
    rw [List.map_cons, List.sum_cons] at hsum ⊢
    have hrest : 0 ≤ (entries.map fun e => max 0 (g.claim m pass axis e)).sum :=
      List.sum_nonneg (List.forall_mem_map.2 fun e _ => le_max_left _ _)
    have hextent := Slot.extent_le_total hnonneg (hlen ▸ hstop)
    have htotal : 0 ≤ total sizes := total_nonneg hnonneg
    have hfit : g.RoomFits m pass axis sizes e :=
      roomFits_of_nonneg hnonneg (by omega) (by omega)
    have hgrown := grownAt_accommodate hfit
    have hadded := total_accommodate_le hfit hlen hnonneg hstop
    obtain ⟨hfits, hle⟩ := ih (hgrown.length_eq.trans hlen)
      (fun i => (hnonneg i).trans (hgrown.le i)) hinside (by omega)
    exact ⟨⟨hfit, hfits⟩, hle.trans (by omega)⟩

/-- Components that all have what they claim change nothing. -/
theorem foldl_accommodate_eq_self {entries : List Entry} {sizes : List Int}
    (hfit : g.RoomFitsInTurn m pass axis entries sizes)
    (h : ∀ e ∈ entries, g.claim m pass axis e ≤ (e.placement.along axis).extent sizes) :
    entries.foldl (g.accommodate m pass axis) sizes = sizes := by
  induction entries with
  | nil => rfl
  | cons e entries ih =>
    obtain ⟨hfirst, hrest⟩ := hfit
    rw [accommodate_of_claim_le hfirst (h e (by simp))] at hrest
    rw [List.foldl_cons, accommodate_of_claim_le hfirst (h e (by simp))]
    exact ih hrest fun other hother => h other (List.mem_cons_of_mem e hother)

/-- Every component has what it claims once its turn is over. -/
theorem claim_le_extent_foldl {entries : List Entry} {sizes : List Int}
    (hfit : g.RoomFitsInTurn m pass axis entries sizes) (hlen : sizes.length = g.count axis)
    {e : Entry} (he : e ∈ entries) (h : (e.placement.along axis).elastic (g.tracks axis) ≠ []) :
    g.claim m pass axis e ≤
      (e.placement.along axis).extent (entries.foldl (g.accommodate m pass axis) sizes) := by
  induction entries generalizing sizes with
  | nil => simp at he
  | cons first entries ih =>
    rcases List.mem_cons.1 he with rfl | he
    · have hturn := extent_accommodate hfit.1 hlen h
      have hlater := (grownAt_foldl_accommodate hfit.2).extent_le (e.placement.along axis)
      rw [hturn] at hlater
      exact (le_max_right _ _).trans hlater
    · exact ih hfit.2 ((grownAt_accommodate hfit.1).length_eq.trans hlen) he

theorem grownAt_scanCellSizes (hfit : g.PassFits m pass axis) :
    GrownAt (fun i => ∃ e ∈ g.spanning axis, i ∈ (e.placement.along axis).elastic (g.tracks axis))
      (g.scanBaseSizes m pass axis) (g.scanCellSizes m pass axis) :=
  grownAt_foldl_accommodate hfit

end

/-! ## Groups -/

/-- The sizes with groups of an axis, whether or not the placements and the groups fit. -/
def equalizedSizes (g : Grid) (m : Measures) (pass : Pass) (axis : Axis) : List Int :=
  equalizeAll (g.groups axis) (g.scanCellSizes m pass axis)

/-- All groups of an axis lie inside its tracks. -/
def GroupsInside (g : Grid) (axis : Axis) : Prop := GroupsFit (g.groups axis) (g.count axis)

/-- There are sizes with groups exactly if the grid has no fault and its groups lie inside. -/
theorem scanGroupedSizes_eq_ok_iff {sizes : List Int} :
    g.scanGroupedSizes m pass axis = .ok sizes ↔
      g.check = .ok () ∧ g.GroupsInside axis ∧ sizes = g.equalizedSizes m pass axis := by
  unfold scanGroupedSizes GroupsInside
  cases g.check with
  | error fault => simp [bind, Except.bind]
  | ok _ => simp [bind, Except.bind, applyGroups_eq_ok_iff, equalizedSizes]

variable {g axis}

theorem grownAt_equalizedSizes (h : g.GroupsInside axis) :
    GrownAt (fun i => ∃ group ∈ g.groups axis, i ∈ group.indices)
      (g.scanCellSizes m pass axis) (g.equalizedSizes m pass axis) :=
  grownAt_equalizeAll (by rw [length_scanCellSizes]; exact h)

theorem length_equalizedSizes (h : g.GroupsInside axis) :
    (g.equalizedSizes m pass axis).length = g.count axis := by
  rw [(grownAt_equalizedSizes m pass h).length_eq, length_scanCellSizes]

/-! ## What the sizes grant -/

/-- Both passes size the tracks of an axis in 32 bits, which also hold the totals with groups. -/
structure TotalsFit (g : Grid) (m : Measures) (axis : Axis) : Prop where
  pass : ∀ pass, g.PassFits m pass axis
  total : ∀ pass, Representable (GridLayout.total (g.equalizedSizes m pass axis))

instance : Decidable (g.TotalsFit m axis) :=
  decidable_of_iff
    ((g.PassFits m .preferred axis ∧ g.PassFits m .minimum axis) ∧
      Representable (total (g.equalizedSizes m .preferred axis)) ∧
      Representable (total (g.equalizedSizes m .minimum axis)))
    ⟨fun h => ⟨fun pass => by cases pass; exacts [h.1.1, h.1.2],
      fun pass => by cases pass; exacts [h.2.1, h.2.2]⟩,
      fun h => ⟨⟨h.pass _, h.pass _⟩, h.total _, h.total _⟩⟩

variable {m pass} in
/-- With groups the tracks take at most so often a bound of all sizes without groups. -/
theorem total_equalizedSizes_le (h : g.GroupsInside axis) {bound : Int}
    (hle : ∀ i, (g.scanCellSizes m pass axis).getD i 0 ≤ bound) :
    total (g.equalizedSizes m pass axis) ≤ g.count axis * bound := by
  have hfit : GroupsFit (g.groups axis) (g.scanCellSizes m pass axis).length := by
    rwa [length_scanCellSizes]
  have hsizes := total_le_of_le (equalizeAll_le hfit hle)
  rwa [← equalizedSizes, length_equalizedSizes m pass h] at hsizes

variable {m} in
/-- Where no size is negative, 32 bits hold the totals if they hold so often a bound of all sizes
without groups. -/
theorem totalsFit_of_le (h : g.GroupsInside axis) (hpass : ∀ pass, g.PassFits m pass axis)
    (hnonneg : ∀ pass i, 0 ≤ (g.scanBaseSizes m pass axis).getD i 0) (bound : Int)
    (hle : ∀ pass i, (g.scanCellSizes m pass axis).getD i 0 ≤ bound)
    (hbound : g.count axis * bound ≤ 2147483647) : g.TotalsFit m axis := by
  refine ⟨hpass, fun pass => ?_⟩
  have hgrown := grownAt_equalizedSizes m pass h
  have hlow : 0 ≤ GridLayout.total (g.equalizedSizes m pass axis) := total_nonneg fun i =>
    ((hnonneg pass i).trans ((grownAt_scanCellSizes (hpass pass)).le i)).trans (hgrown.le i)
  have hhigh := total_equalizedSizes_le h (hle pass)
  exact ⟨by omega, by omega⟩

variable {m pass} in
theorem scanBaseSizes_le_equalizedSizes (h : g.GroupsInside axis) (hfit : g.PassFits m pass axis)
    (i : Nat) : (g.scanBaseSizes m pass axis).getD i 0 ≤ (g.equalizedSizes m pass axis).getD i 0 :=
  ((grownAt_scanCellSizes hfit).le i).trans ((grownAt_equalizedSizes m pass h).le i)

variable {m pass} in
/-- No track is smaller than its least size. -/
theorem minimum_le_equalizedSizes (h : g.GroupsInside axis) (hfit : g.PassFits m pass axis)
    {i : Nat} {track : Track} (htrack : (g.tracks axis)[i]? = some track) :
    track.minimum.toPixels m.metrics axis ≤ (g.equalizedSizes m pass axis).getD i 0 := by
  have hbase := g.minimum_le_baseSize m pass axis track (g.aloneIn axis i)
  rw [← g.getD_scanBaseSizes m pass axis htrack] at hbase
  exact hbase.trans (scanBaseSizes_le_equalizedSizes h hfit i)

/-- A fixed track outside all groups has its least size, if its own components claim no more. -/
theorem getD_equalizedSizes_of_fixed (h : g.GroupsInside axis) {i : Nat} {track : Track}
    (htrack : (g.tracks axis)[i]? = some track) (hfixed : track.sizing = .fixed)
    (hgroups : ∀ group ∈ g.groups axis, i ∉ group.indices)
    (halone : ∀ e ∈ g.aloneIn axis i,
      g.claim m pass axis e ≤ track.minimum.toPixels m.metrics axis) :
    (g.equalizedSizes m pass axis).getD i 0 = track.minimum.toPixels m.metrics axis := by
  have hmember : ¬∃ group ∈ g.groups axis, i ∈ group.indices := fun ⟨group, hgroup, hi⟩ =>
    hgroups group hgroup hi
  have helastic : ¬∃ e ∈ g.spanning axis, i ∈ (e.placement.along axis).elastic (g.tracks axis) := by
    rintro ⟨e, -, hi⟩
    exact Slot.notMem_elastic_of_fixed htrack hfixed hi
  rw [(grownAt_equalizedSizes m pass h).eq i hmember, (g.changedAt_scanCellSizes m pass axis).eq i
    helastic, g.getD_scanBaseSizes m pass axis htrack,
    g.baseSize_eq_minimum m pass axis track halone]

/-- A component of a single track has what it claims from the start. -/
theorem claim_le_extent_scanBaseSizes {e : Entry} (he : e ∈ g.components) (hfits : e.Fits g)
    (hspan : (e.placement.along axis).span = 1) :
    g.claim m pass axis e ≤ (e.placement.along axis).extent (g.scanBaseSizes m pass axis) := by
  have hstart : (e.placement.along axis).start < (g.tracks axis).length := hfits.start_lt axis
  have halone : e ∈ g.aloneIn axis (e.placement.along axis).start := by
    simp [aloneIn, he, Entry.isAlone, hspan]
  rw [Slot.extent_eq_sum, Slot.stop, hspan, sum_Ico_succ_top (Nat.le_refl _), Ico_self, sum_empty,
    zero_add, g.getD_scanBaseSizes m pass axis (List.getElem?_eq_getElem hstart)]
  exact g.claim_le_baseSize m pass axis _ halone

variable {m pass} in
/-- A component has what it claims, unless all of its several tracks are fixed. -/
theorem claim_le_extent_equalizedSizes (h : g.GroupsInside axis) (hfit : g.PassFits m pass axis)
    {e : Entry} (he : e ∈ g.components) (hfits : e.Fits g) (hstretch : e.CanStretch g axis) :
    g.claim m pass axis e ≤ (e.placement.along axis).extent (g.equalizedSizes m pass axis) := by
  refine le_trans ?_ ((grownAt_equalizedSizes m pass h).extent_le _)
  by_cases hspan : (e.placement.along axis).span = 1
  · exact (claim_le_extent_scanBaseSizes m pass he hfits hspan).trans
      ((grownAt_scanCellSizes hfit).extent_le _)
  · have hspanning : e ∈ g.spanning axis := by simp [spanning, he, Entry.isSpanning, hspan]
    exact claim_le_extent_foldl hfit (g.length_scanBaseSizes m pass axis) hspanning
      (hstretch.elastic_ne_nil hspan)

end Grid

end GridLayout

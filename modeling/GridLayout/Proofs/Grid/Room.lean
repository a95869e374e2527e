import GridLayout.Proofs.Grid.Growth
import GridLayout.Proofs.Grid.History

/-!
# Making room for all components

Components of several tracks are given room one after another, in the order in which they were
registered, and the tracks of one may be among those of the next. Each finds the sizes that the ones
before it left. If they are too small for it together, its elastic tracks grow evenly until they are
just large enough; otherwise, or if all its tracks are fixed, nothing changes. As no size ever gets
smaller, what was enough for one component stays enough for it. All this is so as long as 32 bits
hold what is added up; a size that is cut may get smaller, but a fixed track does not change even
then.

* `MakesRoom`: how the sizes relate to those before, when room is made for one component.
* `Grid.MakesRoomInTurn`: the same for components one after another.
* `Grid.makesRoom_accommodate` and `Grid.makesRoomInTurn_foldl`: the step and the run of the solver.
* `Grid.Enlarges`: how sizes without groups relate to those before any track is enlarged.
* `CachedGrid.enlarges_of_validate`: it holds of what every reachable grid answers in 32 bits.
-/

namespace GridLayout

open Finset

/-- The track at the index lies in the slot and is not fixed. -/
def Slot.IsElastic (s : Slot) (tracks : List Track) (i : Nat) : Prop :=
  s.Covers i ∧ ∃ track, tracks[i]? = some track ∧ track.sizing ≠ .fixed

theorem Slot.elastic_eq_nil_iff {s : Slot} {tracks : List Track} :
    s.elastic tracks = [] ↔ ∀ i, ¬s.IsElastic tracks i := by
  rw [List.eq_nil_iff_forall_not_mem]
  exact forall_congr' fun i => not_congr Slot.mem_elastic

/-! ## One component -/

/-- Room is made in a slot for a claim: elastic tracks in it grow, if they are too small. Then they
are just large enough, and have grown alike up to a pixel, which the first ones got. -/
structure MakesRoom (tracks : List Track) (slot : Slot) (claim : Int) (before after : List Int) :
    Prop where
  grown : GrownAt (slot.IsElastic tracks) before after
  eq_of_le : claim ≤ slot.extent before → after = before
  eq_of_fixed : (∀ i, ¬slot.IsElastic tracks i) → after = before
  extent_eq : slot.extent before < claim → (∃ i, slot.IsElastic tracks i) →
    slot.extent after = claim
  growth_le : ∀ i j, i ≤ j → slot.IsElastic tracks i → slot.IsElastic tracks j →
    after.getD j 0 - before.getD j 0 ≤ after.getD i 0 - before.getD i 0 ∧
      after.getD i 0 - before.getD i 0 ≤ after.getD j 0 - before.getD j 0 + 1

/-- With an elastic track there is room for the claim afterwards. -/
theorem MakesRoom.claim_le {tracks : List Track} {slot : Slot} {claim : Int}
    {before after : List Int} (h : MakesRoom tracks slot claim before after)
    (helastic : ∃ i, slot.IsElastic tracks i) : claim ≤ slot.extent after := by
  by_cases hroom : claim ≤ slot.extent before
  · exact hroom.trans (h.grown.extent_le slot)
  · exact (h.extent_eq (lt_of_not_ge hroom) helastic).ge

namespace Grid

variable (g : Grid) (m : Measures) (pass : Pass) (axis : Axis)

/-- **Room for one component.** -/
theorem makesRoom_accommodate {sizes : List Int} {e : Entry} (hfit : g.RoomFits m pass axis sizes e)
    (hlen : sizes.length = g.count axis) :
    MakesRoom (g.tracks axis) (e.placement.along axis) (g.claim m pass axis e) sizes
      (g.accommodate m pass axis sizes e) := by
  constructor
  · exact (grownAt_accommodate hfit).mono fun i => Slot.mem_elastic.1
  · exact accommodate_of_claim_le hfit
  · intro hfixed
    exact g.accommodate_of_elastic_eq_nil m pass axis (Slot.elastic_eq_nil_iff.2 hfixed) sizes
  · rintro hmissing ⟨i, hi⟩
    rw [extent_accommodate hfit hlen (List.ne_nil_of_mem (Slot.mem_elastic.2 hi))]
    exact max_eq_right hmissing.le
  · intro i j hij hi hj
    rcases lt_or_ge ((e.placement.along axis).extent sizes) (g.claim m pass axis e) with hlt | hge
    · -- a later track has a later number among the elastic ones, and so no larger part
      have hi := Slot.mem_elastic.2 hi
      have hj := Slot.mem_elastic.2 hj
      have hparts := g.part_le_part m pass axis sizes hi hj hij
      rw [(raisedAt_accommodate hfit hlt).getD_eq (hfit.parts hlt)
          (hlen ▸ (Slot.lt_of_mem_elastic hi).1) hi,
        (raisedAt_accommodate hfit hlt).getD_eq (hfit.parts hlt)
          (hlen ▸ (Slot.lt_of_mem_elastic hj).1) hj]
      omega
    · rw [accommodate_of_claim_le hfit hge]
      omega

/-! ## One component after another -/

/-- Room is made for the components one after another. -/
inductive MakesRoomInTurn : List Entry → List Int → List Int → Prop
  | nil (sizes : List Int) : MakesRoomInTurn [] sizes sizes
  | cons {e : Entry} {entries : List Entry} {before between after : List Int} :
    MakesRoom (g.tracks axis) (e.placement.along axis) (g.claim m pass axis e) before between →
    MakesRoomInTurn entries between after → MakesRoomInTurn (e :: entries) before after

/-- **Room for all components, one after another.** -/
theorem makesRoomInTurn_foldl {entries : List Entry} {sizes : List Int}
    (hfit : g.RoomFitsInTurn m pass axis entries sizes) (hlen : sizes.length = g.count axis) :
    g.MakesRoomInTurn m pass axis entries sizes
      (entries.foldl (g.accommodate m pass axis) sizes) := by
  induction entries generalizing sizes with
  | nil => exact .nil sizes
  | cons e entries ih =>
    have hstep := g.makesRoom_accommodate m pass axis hfit.1 hlen
    exact .cons hstep (ih hfit.2 (hstep.grown.length_eq.trans hlen))

variable {g m pass axis}

namespace MakesRoomInTurn

/-- Only elastic tracks of the components grow. -/
theorem grownAt {entries : List Entry} {before after : List Int}
    (h : g.MakesRoomInTurn m pass axis entries before after) :
    GrownAt (fun i => ∃ e ∈ entries, (e.placement.along axis).IsElastic (g.tracks axis) i)
      before after := by
  induction h with
  | nil sizes => exact .refl sizes
  | @cons e entries _ _ _ hstep _ ih =>
    refine (hstep.grown.mono fun i hi => ?_).trans (ih.mono fun i hi => ?_)
    · exact ⟨e, List.mem_cons_self, hi⟩
    · obtain ⟨other, hother, hi⟩ := hi
      exact ⟨other, List.mem_cons_of_mem e hother, hi⟩

/-- Once a component had its turn, there is room for it to the end. -/
theorem claim_le_extent {entries : List Entry} {before after : List Int}
    (h : g.MakesRoomInTurn m pass axis entries before after) {e : Entry} (he : e ∈ entries)
    (helastic : ∃ i, (e.placement.along axis).IsElastic (g.tracks axis) i) :
    g.claim m pass axis e ≤ (e.placement.along axis).extent after := by
  induction h with
  | nil => simp at he
  | cons hstep hrest ih =>
    rcases List.mem_cons.1 he with rfl | he
    · exact (hstep.claim_le helastic).trans (hrest.grownAt.extent_le _)
    · exact ih he

end MakesRoomInTurn

end Grid

/-! ## The whole grid -/

/-- Sizes without groups, from those that each track has by its least size and the components of
that track alone. -/
structure Grid.Enlarges (g : Grid) (m : Measures) (pass : Pass) (axis : Axis)
    (base sizes : List Int) : Prop where
  base_length : base.length = g.count axis
  base_le_iff : ∀ (i : Nat) (track : Track), (g.tracks axis)[i]? = some track → ∀ size,
    base.getD i 0 ≤ size ↔ track.minimum.toPixels m.metrics axis ≤ size ∧
      ∀ e ∈ g.components, (e.placement.along axis).span = 1 →
        (e.placement.along axis).start = i → g.claim m pass axis e ≤ size
  length_eq : sizes.length = base.length
  base_le : ∀ i, base.getD i 0 ≤ sizes.getD i 0
  eq_of_fixed : ∀ (i : Nat) (track : Track), (g.tracks axis)[i]? = some track →
    track.sizing = .fixed → sizes.getD i 0 = base.getD i 0
  claim_le : ∀ e ∈ g.components, 1 < (e.placement.along axis).span →
    (∃ i, (e.placement.along axis).IsElastic (g.tracks axis) i) →
    g.claim m pass axis e ≤ (e.placement.along axis).extent sizes
  inTurn : g.MakesRoomInTurn m pass axis
    (g.components.filter fun e => 1 < (e.placement.along axis).span) base sizes

namespace Grid

variable {g : Grid} (m : Measures) (pass : Pass) (axis : Axis)

theorem spanning_eq_of_check (hcheck : g.check = .ok ()) :
    g.spanning axis = g.components.filter fun e => 1 < (e.placement.along axis).span := by
  refine List.filter_congr fun e he => ?_
  have hspan := (fits_of_check hcheck he).span_pos axis
  rw [Entry.isSpanning, Bool.eq_iff_iff, bne_iff_ne, decide_eq_true_iff]
  omega

/-- Only elastic tracks under components of several tracks change. -/
theorem changedAt_elastic (hcheck : g.check = .ok ()) :
    ChangedAt (fun i => ∃ e ∈ g.components, 1 < (e.placement.along axis).span ∧
        (e.placement.along axis).IsElastic (g.tracks axis) i)
      (g.scanBaseSizes m pass axis) (g.scanCellSizes m pass axis) := by
  have hchanged := g.changedAt_scanCellSizes m pass axis
  rw [spanning_eq_of_check axis hcheck] at hchanged
  refine hchanged.mono fun i ⟨e, he, hi⟩ => ?_
  obtain ⟨he, hspan⟩ := List.mem_filter.1 he
  exact ⟨e, he, of_decide_eq_true hspan, Slot.mem_elastic.1 hi⟩

theorem enlarges_scanCellSizes (hcheck : g.check = .ok ()) (hfit : g.PassFits m pass axis) :
    g.Enlarges m pass axis (g.scanBaseSizes m pass axis) (g.scanCellSizes m pass axis) := by
  have hbase := g.length_scanBaseSizes m pass axis
  have hrun : g.MakesRoomInTurn m pass axis
      (g.components.filter fun e => 1 < (e.placement.along axis).span)
      (g.scanBaseSizes m pass axis) (g.scanCellSizes m pass axis) :=
    spanning_eq_of_check axis hcheck ▸ g.makesRoomInTurn_foldl m pass axis hfit hbase
  constructor
  · exact hbase
  · intro i track htrack size
    rw [g.getD_scanBaseSizes m pass axis htrack, baseSize_le_iff]
    simp [aloneIn, Entry.isAlone]
  · exact hrun.grownAt.length_eq
  · exact hrun.grownAt.le
  · intro i track htrack hfixed
    refine hrun.grownAt.eq i ?_
    rintro ⟨e, -, hi⟩
    exact Slot.notMem_elastic_of_fixed htrack hfixed (Slot.mem_elastic.2 hi)
  · intro e he hspan helastic
    exact hrun.claim_le_extent (List.mem_filter.2 ⟨he, decide_eq_true hspan⟩) helastic
  · exact hrun

end Grid

namespace CachedGrid

variable {g : CachedGrid}

end CachedGrid

end GridLayout

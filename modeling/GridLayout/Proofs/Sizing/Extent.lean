import Mathlib.Algebra.BigOperators.Intervals
import Mathlib.Algebra.Order.BigOperators.Group.Finset
import Mathlib.Algebra.Order.Ring.Int
import GridLayout.Grid.Arrangement

/-!
# Sizes by their indices

What the solver does to a list of sizes is said here by the size at each index, `sizes.getD i 0`,
where an index without a track has the size zero. Totals, extents and positions are then sums over
sets of indices.

* `total_eq_sum`, `Slot.extent_eq_sum` and `getD_positions` turn them into such sums.
* `ChangedAt`: only the sizes at certain indices are not as before. `RaisedAt`: each of these gets a
  gain, as far as 32 bits hold the sum. All steps of the solver but those for groups are of this
  kind.
* `GrownAt`: no size is smaller than before, and only the sizes at certain indices are larger. Sizes
  that are raised have grown if all sums can be held (`RaisedAt.grownAt`).
-/

namespace GridLayout

open Finset

/-- The track at the index lies in the slot. -/
def Slot.Covers (s : Slot) (i : Nat) : Prop := s.start ≤ i ∧ i < s.stop

/-! ## Totals and extents -/

theorem total_take (sizes : List Int) (n : Nat) :
    total (sizes.take n) = ∑ i ∈ range n, sizes.getD i 0 := by
  induction sizes generalizing n with
  | nil => simp [total]
  | cons size sizes ih =>
    cases n with
    | zero => simp [total]
    | succ n =>
      have hcons : total ((size :: sizes).take (n + 1)) = size + total (sizes.take n) := rfl
      rw [hcons, ih, sum_range_succ', add_comm]
      rfl

theorem total_eq_sum (sizes : List Int) :
    total sizes = ∑ i ∈ range sizes.length, sizes.getD i 0 := by
  rw [← total_take, List.take_length]

/-- The extent of a slot is the sum of the sizes in it. -/
theorem Slot.extent_eq_sum (s : Slot) (sizes : List Int) :
    s.extent sizes = ∑ i ∈ Ico s.start s.stop, sizes.getD i 0 := by
  unfold Slot.extent Slot.cells
  rw [total_take, sum_Ico_eq_sum_range]
  simp [Slot.stop, List.getD_eq_getElem?_getD]

/-! ## Positions -/

@[simp] theorem length_positions (start : Int) (sizes : List Int) :
    (positions start sizes).length = sizes.length := by
  induction sizes generalizing start with
  | nil => rfl
  | cons size sizes ih => simp [positions, ih]

/-- A track starts where all tracks before it end, as far as 32 bits hold the sum. -/
theorem getD_positions_wrap (start : Int) {sizes : List Int} {i : Nat} (hi : i < sizes.length) :
    (positions start sizes).getD i 0 =
      if i = 0 then start else wrap (start + ∑ j ∈ range i, sizes.getD j 0) := by
  induction sizes generalizing start i with
  | nil => simp at hi
  | cons size sizes ih =>
    cases i with
    | zero => simp [positions]
    | succ i =>
      have htail := ih (wrap (start + size)) (Nat.lt_of_succ_lt_succ hi)
      rw [sum_range_succ', List.getD_cons_zero, add_comm _ size, ← add_assoc]
      simp only [positions, List.getD_cons_succ, htail, wrap_wrap_add, Nat.succ_ne_zero, if_false]
      split
      · next hzero => simp [hzero]
      · rfl

/-- Every track starts and ends at a position that can be held. -/
def PositionsFit (start : Int) (sizes : List Int) : Prop :=
  ∀ i ≤ sizes.length, Representable (start + ∑ j ∈ range i, sizes.getD j 0)

instance (start : Int) (sizes : List Int) : Decidable (PositionsFit start sizes) :=
  inferInstanceAs (Decidable (∀ _ ≤ _, _))

variable {start : Int} {sizes : List Int} {s : Slot}

/-- A track starts where all tracks before it end. -/
theorem getD_positions (hfit : PositionsFit start sizes) {i : Nat} (hi : i < sizes.length) :
    (positions start sizes).getD i 0 = start + ∑ j ∈ range i, sizes.getD j 0 := by
  rw [getD_positions_wrap start hi, wrap_eq_self (hfit i hi.le)]
  split
  · next hzero => simp [hzero]
  · rfl

/-- A slot ends where all tracks before its end do. -/
theorem getD_positions_add_extent (hfit : PositionsFit start sizes) (hspan : 0 < s.span)
    (hstop : s.stop ≤ sizes.length) :
    (positions start sizes).getD s.start 0 + s.extent sizes =
      start + ∑ j ∈ range s.stop, sizes.getD j 0 := by
  have hstart : s.start < s.stop := Nat.lt_add_of_pos_right hspan
  rw [getD_positions hfit (hstart.trans_le hstop), s.extent_eq_sum, add_assoc,
    sum_range_add_sum_Ico _ hstart.le]

/-- A slot ends where its last track does. -/
theorem getD_positions_last (hfit : PositionsFit start sizes) (hspan : 0 < s.span)
    (hstop : s.stop ≤ sizes.length) :
    (positions start sizes).getD (s.stop - 1) 0 + sizes.getD (s.stop - 1) 0 =
      (positions start sizes).getD s.start 0 + s.extent sizes := by
  have hpos : 0 < s.stop := Nat.add_pos_right _ hspan
  rw [getD_positions_add_extent hfit hspan hstop, getD_positions hfit (by omega), add_assoc,
    ← sum_range_succ, Nat.sub_add_cancel hpos]

/-- A track starts no earlier than a slot before it ends, if no size is negative. -/
theorem positions_add_extent_le (hfit : PositionsFit start sizes) {i : Nat}
    (hnonneg : ∀ j, 0 ≤ sizes.getD j 0) (hspan : 0 < s.span) (hstop : s.stop ≤ i)
    (hi : i < sizes.length) :
    (positions start sizes).getD s.start 0 + s.extent sizes ≤ (positions start sizes).getD i 0 := by
  rw [getD_positions_add_extent hfit hspan (by omega), getD_positions hfit hi]
  have hle : ∑ j ∈ range s.stop, sizes.getD j 0 ≤ ∑ j ∈ range i, sizes.getD j 0 :=
    sum_le_sum_of_subset_of_nonneg (range_mono hstop) fun j _ _ => hnonneg j
  omega

/-! ## Comparing lists -/

/-- In range the size is there. -/
theorem getElem?_eq_some_getD {sizes : List Int} {i : Nat} (h : i < sizes.length) :
    sizes[i]? = some (sizes.getD i 0) := by
  simp [h]

/-- Lists of one length are equal if all their sizes are. -/
theorem eq_of_getD_eq {a b : List Int} (hlen : b.length = a.length)
    (h : ∀ i, b.getD i 0 = a.getD i 0) : b = a := by
  refine List.ext_getElem hlen fun i hb ha => ?_
  simpa [List.getD_eq_getElem?_getD, ha, hb] using h i

/-- Sizes that are nowhere larger than others and somewhere smaller have a smaller total. -/
theorem total_lt_of_lt {low high : List Int} (hlen : high.length = low.length)
    (hle : ∀ j, low.getD j 0 ≤ high.getD j 0) {s : Nat} (hs : low.getD s 0 < high.getD s 0) :
    total low < total high := by
  have hslow : s < low.length := by
    by_contra hout
    simp [List.getD_eq_getElem?_getD, List.getElem?_eq_none (Nat.le_of_not_lt hout),
      List.getElem?_eq_none (hlen.trans_le (Nat.le_of_not_lt hout))] at hs
  rw [total_eq_sum, total_eq_sum, hlen]
  exact sum_lt_sum (fun j _ => hle j) ⟨s, mem_range.2 hslow, hs⟩

/-- Sizes of which none is larger than a bound. -/
theorem total_le_of_le {sizes : List Int} {bound : Int} (h : ∀ i, sizes.getD i 0 ≤ bound) :
    total sizes ≤ sizes.length * bound := by
  have hsum := sum_le_card_nsmul (range sizes.length) (fun i => sizes.getD i 0) bound fun i _ => h i
  rwa [← total_eq_sum, card_range, nsmul_eq_mul] at hsum

theorem total_nonneg {sizes : List Int} (h : ∀ i, 0 ≤ sizes.getD i 0) : 0 ≤ total sizes :=
  total_eq_sum sizes ▸ sum_nonneg fun i _ => h i

/-- Where no size is negative, no track has more than all of them. -/
theorem getD_le_total {sizes : List Int} (h : ∀ i, 0 ≤ sizes.getD i 0) {i : Nat}
    (hi : i < sizes.length) : sizes.getD i 0 ≤ total sizes :=
  total_eq_sum sizes ▸ single_le_sum (fun j _ => h j) (mem_range.2 hi)

/-- Where no size is negative, the first tracks have no more than all of them. -/
theorem sum_range_le_total {sizes : List Int} (h : ∀ i, 0 ≤ sizes.getD i 0) {n : Nat}
    (hn : n ≤ sizes.length) : ∑ j ∈ range n, sizes.getD j 0 ≤ total sizes :=
  total_eq_sum sizes ▸ sum_le_sum_of_subset_of_nonneg (range_mono hn) fun j _ _ => h j

/-- Where no size is negative, a slot inside the tracks has no more than all of them. -/
theorem Slot.extent_le_total {s : Slot} {sizes : List Int} (h : ∀ i, 0 ≤ sizes.getD i 0)
    (hstop : s.stop ≤ sizes.length) : s.extent sizes ≤ total sizes := by
  have hcells : Ico s.start s.stop ⊆ range sizes.length := fun i hi =>
    mem_range.2 ((mem_Ico.1 hi).2.trans_le hstop)
  rw [s.extent_eq_sum, total_eq_sum]
  exact sum_le_sum_of_subset_of_nonneg hcells fun i _ _ => h i

theorem Slot.extent_nonneg {s : Slot} {sizes : List Int} (h : ∀ i, 0 ≤ sizes.getD i 0) :
    0 ≤ s.extent sizes :=
  s.extent_eq_sum sizes ▸ sum_nonneg fun i _ => h i

/-! ## Changes -/

variable {p q : Nat → Prop} {gain : Nat → Int} {a b c : List Int}

/-- The sizes outside a set of indices are the same as before. -/
structure ChangedAt (p : Nat → Prop) (before after : List Int) : Prop where
  length_eq : after.length = before.length
  eq : ∀ i, ¬p i → after.getD i 0 = before.getD i 0

namespace ChangedAt

theorem refl (a : List Int) : ChangedAt p a a := ⟨rfl, fun _ _ => rfl⟩

theorem trans (h : ChangedAt p a b) (h' : ChangedAt p b c) : ChangedAt p a c :=
  ⟨h'.length_eq.trans h.length_eq, fun i hi => (h'.eq i hi).trans (h.eq i hi)⟩

theorem mono (h : ChangedAt p a b) (hpq : ∀ i, p i → q i) : ChangedAt q a b :=
  ⟨h.length_eq, fun i hi => h.eq i fun hp => hi (hpq i hp)⟩

/-- A sum over indices outside the set is the same as before. -/
theorem sum_eq (h : ChangedAt p a b) {s : Finset Nat} (hs : ∀ i ∈ s, ¬p i) :
    ∑ i ∈ s, b.getD i 0 = ∑ i ∈ s, a.getD i 0 := sum_congr rfl fun i hi => h.eq i (hs i hi)

end ChangedAt

/-- The sizes at a set of indices get a gain each, as far as 32 bits hold the sum, and those outside
are the same as before. -/
structure RaisedAt (p : Nat → Prop) (gain : Nat → Int) (before after : List Int) : Prop extends
    ChangedAt p before after where
  raised : ∀ i < before.length, p i → after.getD i 0 = wrap (before.getD i 0 + gain i)

/-- No size is smaller than before, and those outside a set of indices are the same. -/
structure GrownAt (p : Nat → Prop) (before after : List Int) : Prop extends
    ChangedAt p before after where
  le : ∀ i, before.getD i 0 ≤ after.getD i 0

namespace RaisedAt

/-- All sums of a size and its gain can be held. -/
def Fits (p : Nat → Prop) (gain : Nat → Int) (before : List Int) : Prop :=
  ∀ i < before.length, p i → Representable (before.getD i 0 + gain i)

instance [DecidablePred p] : Decidable (Fits p gain a) :=
  inferInstanceAs (Decidable (∀ _ < _, _))

theorem getD_eq (h : RaisedAt p gain a b) (hfit : Fits p gain a) {i : Nat} (hi : i < a.length)
    (hp : p i) : b.getD i 0 = a.getD i 0 + gain i :=
  (h.raised i hi hp).trans (wrap_eq_self (hfit i hi hp))

/-- If no gain is negative and all sums can be held, sizes only grow. -/
theorem grownAt (h : RaisedAt p gain a b) (hgain : ∀ i, p i → 0 ≤ gain i) (hfit : Fits p gain a) :
    GrownAt p a b := by
  refine ⟨h.toChangedAt, fun i => ?_⟩
  by_cases hp : p i
  · by_cases hi : i < a.length
    · rw [h.getD_eq hfit hi hp]
      exact le_add_of_nonneg_right (hgain i hp)
    · have hlen := h.length_eq
      simp [List.getD_eq_getElem?_getD, List.getElem?_eq_none (show a.length ≤ i by omega),
        List.getElem?_eq_none (show b.length ≤ i by omega)]
  · exact (h.eq i hp).ge

/-- If all sums can be held, the gains are added to a sum over indices. -/
theorem sum_eq_add [DecidablePred p] (h : RaisedAt p gain a b) (hfit : Fits p gain a)
    {s : Finset Nat} (hs : ∀ i ∈ s, p i → i < a.length) :
    ∑ i ∈ s, b.getD i 0 = ∑ i ∈ s, a.getD i 0 + ∑ i ∈ s with p i, gain i := by
  rw [sum_filter, ← sum_add_distrib]
  refine sum_congr rfl fun i hi => ?_
  split
  · next hp => exact h.getD_eq hfit (hs i hi hp) hp
  · next hp => rw [h.eq i hp, add_zero]

end RaisedAt

namespace GrownAt

theorem refl (a : List Int) : GrownAt p a a := ⟨.refl a, fun _ => le_rfl⟩

theorem trans (h : GrownAt p a b) (h' : GrownAt p b c) : GrownAt p a c :=
  ⟨h.toChangedAt.trans h'.toChangedAt, fun i => (h.le i).trans (h'.le i)⟩

theorem mono (h : GrownAt p a b) (hpq : ∀ i, p i → q i) : GrownAt q a b :=
  ⟨h.toChangedAt.mono hpq, h.le⟩

theorem sum_le (h : GrownAt p a b) (s : Finset Nat) :
    ∑ i ∈ s, a.getD i 0 ≤ ∑ i ∈ s, b.getD i 0 := sum_le_sum fun i _ => h.le i

theorem total_le (h : GrownAt p a b) : total a ≤ total b := by
  rw [total_eq_sum, total_eq_sum, h.length_eq]
  exact h.sum_le _

theorem extent_le (h : GrownAt p a b) (s : Slot) : s.extent a ≤ s.extent b := by
  rw [s.extent_eq_sum, s.extent_eq_sum]
  exact h.sum_le _

end GrownAt

end GridLayout

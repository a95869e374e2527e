import GridLayout.Proofs.Sizing.Extent

/-!
# Sharing out space

The space left in a container is shared out by weight, and what the floored shares leave over is
given out pixel by pixel. The pixels left over are never more than the tracks with a weight, so one
for each of the first of them is enough.

* `sharesSum_bounds`: what the floored shares may leave over.
* `sharedGain` and `raisedAt_shareOut`: what each track gets, to the pixel, as far as 32 bits hold
  its size with that; `getD_shareOut_le`: not more than there is.
* `SharesFit`: 32 bits do hold all sizes. Then only tracks with a weight grow (`grownAt_shareOut`),
  and with a weight somewhere the tracks fill the container, if they were not already larger
  (`total_shareOut`).
-/

namespace GridLayout

/-- The track at the index has a weight. -/
def IsWeighted (tracks : List Track) (i : Nat) : Prop :=
  ∃ track, tracks[i]? = some track ∧ 0 < track.weight

/-- The number of tracks with a weight. -/
def weightedCount (tracks : List Track) : Nat := tracks.countP fun track => 0 < track.weight

/-- The weight of the track at the index. -/
def weightAt (tracks : List Track) (i : Nat) : Nat := ((tracks[i]?).map Track.weight).getD 0

theorem isWeighted_iff {tracks : List Track} {i : Nat} :
    IsWeighted tracks i ↔ 0 < weightAt tracks i := by
  unfold IsWeighted weightAt
  cases tracks[i]? <;> simp

instance (tracks : List Track) : DecidablePred (IsWeighted tracks) :=
  fun _ => decidable_of_iff _ isWeighted_iff.symm

theorem weightAt_eq {tracks : List Track} {i : Nat} {track : Track} (h : tracks[i]? = some track) :
    weightAt tracks i = track.weight := by simp [weightAt, h]

theorem isWeighted_zero {track : Track} {tracks : List Track} :
    IsWeighted (track :: tracks) 0 ↔ 0 < track.weight := by simp [IsWeighted]

theorem isWeighted_succ {track : Track} {tracks : List Track} {i : Nat} :
    IsWeighted (track :: tracks) (i + 1) ↔ IsWeighted tracks i := by simp [IsWeighted]

theorem weightAt_zero {track : Track} {tracks : List Track} :
    weightAt (track :: tracks) 0 = track.weight := rfl

theorem weightAt_succ {track : Track} {tracks : List Track} {i : Nat} :
    weightAt (track :: tracks) (i + 1) = weightAt tracks i := rfl

/-- Weights add up to something exactly if there is one. -/
theorem sum_weight_pos_iff {tracks : List Track} :
    0 < (tracks.map Track.weight).sum ↔ ∃ i, IsWeighted tracks i := by
  induction tracks with
  | nil => simp [IsWeighted]
  | cons track tracks ih =>
    rw [List.map_cons, List.sum_cons]
    constructor
    · intro h
      by_cases htrack : 0 < track.weight
      · exact ⟨0, isWeighted_zero.2 htrack⟩
      · obtain ⟨i, hi⟩ := ih.1 (by omega)
        exact ⟨i + 1, isWeighted_succ.2 hi⟩
    · rintro ⟨i, hi⟩
      cases i with
      | zero => exact Nat.add_pos_left (isWeighted_zero.1 hi) _
      | succ i => exact Nat.add_pos_right _ (ih.2 ⟨i, isWeighted_succ.1 hi⟩)

/-! ## Floored shares -/

theorem share_nonneg {space : Int} (h : 0 ≤ space) (weight weights : Nat) :
    0 ≤ space * weight / weights :=
  Int.ediv_nonneg (Int.mul_nonneg h (Int.natCast_nonneg weight)) (Int.natCast_nonneg weights)

/-- A floored share falls short of the exact one by less than a pixel, and by nothing without a
weight. -/
theorem share_bounds (space : Int) (weight : Nat) {weights : Nat} (hweights : 0 < weights) :
    weights * (space * weight / weights) ≤ space * weight ∧
      space * weight ≤ weights * (space * weight / weights) +
        if 0 < weight then (weights - 1 : Int) else 0 := by
  have hpos : (0 : Int) < weights := Int.natCast_pos.2 hweights
  have hmod := Int.emod_nonneg (space * weight) hpos.ne'
  have hlt := Int.emod_lt_of_pos (space * weight) hpos
  have hdiv := Int.mul_ediv_add_emod (space * weight) weights
  refine ⟨by omega, ?_⟩
  split
  · omega
  · next hzero => simp [show weight = 0 by omega]

/-- The floored shares together, times the weights, fall short of the exact ones by less than the
weights for each track with a weight. -/
theorem mul_sharesSum_bounds (space : Int) {weights : Nat} (hweights : 0 < weights)
    {sizes : List Int} {tracks : List Track} (hlen : sizes.length = tracks.length) :
    weights * sharesSum space weights sizes tracks ≤ space * (tracks.map Track.weight).sum ∧
      space * (tracks.map Track.weight).sum ≤ weights * sharesSum space weights sizes tracks +
        (weights - 1) * weightedCount tracks := by
  induction sizes generalizing tracks with
  | nil =>
    obtain rfl : tracks = [] := List.length_eq_zero_iff.1 hlen.symm
    simp [sharesSum, weightedCount]
  | cons size sizes ih =>
    cases tracks with
    | nil => simp at hlen
    | cons track tracks =>
      obtain ⟨hlow, hhigh⟩ := ih (Nat.succ.inj hlen)
      obtain ⟨hlow', hhigh'⟩ := share_bounds space track.weight hweights
      have hcount : (weights - 1 : Int) * weightedCount (track :: tracks) =
          (weights - 1) * weightedCount tracks +
            if 0 < track.weight then (weights - 1 : Int) else 0 := by
        by_cases h : 0 < track.weight <;> simp [weightedCount, h, Int.mul_add]
      rw [hcount]
      simp only [sharesSum, List.map_cons, List.sum_cons, Int.natCast_add, Int.mul_add]
      omega

/-- What the floored shares leave over of the space is at most a pixel for each track with a
weight. -/
theorem sharesSum_bounds (space : Int) {sizes : List Int} {tracks : List Track}
    (hweights : 0 < (tracks.map Track.weight).sum) (hlen : sizes.length = tracks.length) :
    sharesSum space (tracks.map Track.weight).sum sizes tracks ≤ space ∧
      space ≤ sharesSum space (tracks.map Track.weight).sum sizes tracks +
        weightedCount tracks := by
  obtain ⟨hlow, hhigh⟩ := mul_sharesSum_bounds space hweights hlen
  have hpos : (0 : Int) < (tracks.map Track.weight).sum := Int.natCast_pos.2 hweights
  generalize (tracks.map Track.weight).sum = weights at *
  constructor
  · refine Int.le_of_mul_le_mul_left ?_ hpos
    rwa [Int.mul_comm (weights : Int) space]
  · refine Int.le_of_mul_le_mul_left ?_ hpos
    have hcount : (weights - 1 : Int) * weightedCount tracks ≤ weights * weightedCount tracks :=
      Int.mul_le_mul_of_nonneg_right (by omega) (Int.natCast_nonneg _)
    rw [Int.mul_comm (weights : Int) space, Int.mul_add]
    omega

/-! ## What each track gets -/

namespace RaisedAt

variable {p q : Nat → Prop} {gain gain' : Nat → Int} {l l' l'' : List Int}

/-- Raising a list is raising its head and its tail. -/
theorem cons {a b : Int} (hraised : p 0 → b = wrap (a + gain 0)) (heq : ¬p 0 → b = a)
    (h : RaisedAt (fun i => p (i + 1)) (fun i => gain (i + 1)) l l') :
    RaisedAt p gain (a :: l) (b :: l') := by
  refine ⟨⟨by simp [h.length_eq], fun i hi => ?_⟩, fun i hi hp => ?_⟩
  · cases i with
    | zero => exact heq hi
    | succ i => exact h.eq i hi
  · cases i with
    | zero => exact hraised hp
    | succ i => exact h.raised i (Nat.lt_of_succ_lt_succ hi) hp

/-- Sizes that are raised twice get both gains, and are cut once. -/
theorem trans [DecidablePred q] (h : RaisedAt p gain l l') (h' : RaisedAt q gain' l' l'')
    (hqp : ∀ i, q i → p i) :
    RaisedAt p (fun i => gain i + if q i then gain' i else 0) l l'' := by
  refine ⟨h.toChangedAt.trans (h'.toChangedAt.mono hqp), fun i hi hp => ?_⟩
  split
  · next hq =>
    rw [h'.raised i (h.length_eq ▸ hi) hq, h.raised i hi hp, wrap_wrap_add, add_assoc]
  · next hq => rw [h'.eq i hq, h.raised i hi hp, add_zero]

end RaisedAt

/-- A track with a weight gets its floored share. -/
theorem raisedAt_addShares (space : Int) (weights : Nat) (sizes : List Int) (tracks : List Track) :
    RaisedAt (IsWeighted tracks) (fun i => space * weightAt tracks i / weights) sizes
      (addShares space weights sizes tracks) := by
  induction sizes generalizing tracks with
  | nil => exact ⟨.refl [], by simp⟩
  | cons size sizes ih =>
    cases tracks with
    | nil => exact ⟨.refl _, by simp [IsWeighted]⟩
    | cons track tracks =>
      refine .cons (fun hweight => ?_) (fun hnone => ?_) ?_
      · rw [isWeighted_zero] at hweight
        simp [hweight, weightAt_zero]
      · rw [isWeighted_zero] at hnone
        simp [hnone]
      · simpa only [isWeighted_succ, weightAt_succ] using ih tracks

/-- The track gets one of the remaining pixels: fewer of them than there are go to the tracks before
it. -/
def GetsPixel (tracks : List Track) (remainder : Int) (i : Nat) : Prop :=
  0 < weightAt tracks i ∧ (weightedCount (tracks.take i) : Int) < remainder

instance (tracks : List Track) (remainder : Int) : DecidablePred (GetsPixel tracks remainder) :=
  fun _ => inferInstanceAs (Decidable (_ ∧ _))

theorem getsPixel_succ {track : Track} {tracks : List Track} {remainder : Int} {i : Nat} :
    GetsPixel (track :: tracks) remainder (i + 1) ↔
      GetsPixel tracks (remainder - if 0 < track.weight then 1 else 0) i := by
  have hcount : (weightedCount ((track :: tracks).take (i + 1)) : Int) =
      weightedCount (tracks.take i) + if 0 < track.weight then 1 else 0 := by
    by_cases h : 0 < track.weight <;> simp [weightedCount, h]
  rw [GetsPixel, GetsPixel, weightAt_succ, hcount]
  omega

theorem raisedAt_addRemainder (remainder : Int) (sizes : List Int) (tracks : List Track) :
    RaisedAt (GetsPixel tracks remainder) (fun _ => 1) sizes
      (addRemainder remainder sizes tracks) := by
  induction sizes generalizing tracks remainder with
  | nil => exact ⟨.refl [], by simp⟩
  | cons size sizes ih =>
    cases tracks with
    | nil => exact ⟨.refl _, by simp [GetsPixel, weightAt]⟩
    | cons track tracks =>
      have hzero : GetsPixel (track :: tracks) remainder 0 ↔ 0 < remainder ∧ 0 < track.weight := by
        simp [GetsPixel, weightAt, weightedCount, and_comm]
      -- without a pixel left over it is the same how many are taken away from them
      have htail (r : Int) (hr : r = remainder - (if 0 < track.weight then 1 else 0) ∨
          r ≤ 0 ∧ remainder ≤ 0) :
          RaisedAt (fun i => GetsPixel (track :: tracks) remainder (i + 1)) (fun _ => 1) sizes
            (addRemainder r sizes tracks) := by
        have hiff (i : Nat) : GetsPixel (track :: tracks) remainder (i + 1) ↔
            GetsPixel tracks r i := by
          rw [getsPixel_succ]
          unfold GetsPixel
          omega
        simpa only [hiff] using ih r tracks
      simp only [addRemainder]
      split
      · next hgiven =>
        exact .cons (fun _ => rfl) (fun hnone => absurd (hzero.2 hgiven) hnone)
          (htail _ (.inl (by rw [if_pos hgiven.2])))
      · next hgiven =>
        refine .cons (fun hgets => absurd (hzero.1 hgets) hgiven) (fun _ => rfl) (htail _ ?_)
        split <;> omega

/-- What a track gets of the space: its share, rounded down, and one of the pixels that are left
over if it is among the first tracks with a weight. -/
def sharedGain (space : Int) (weights : Nat) (sizes : List Int) (tracks : List Track) (i : Nat) :
    Int :=
  space * weightAt tracks i / weights +
    if GetsPixel tracks (space - sharesSum space weights sizes tracks) i then 1 else 0

/-- **What each track gets** of the space, as far as 32 bits hold its size with that. -/
theorem raisedAt_shareOut {sizes : List Int} {container : Int} (tracks : List Track) {weights : Nat}
    (hspace : 0 < container - total sizes) (hweights : weights ≠ 0) :
    RaisedAt (IsWeighted tracks) (sharedGain (container - total sizes) weights sizes tracks) sizes
      (shareOut sizes container tracks weights) := by
  have hnone : ¬(container - total sizes ≤ 0 ∨ weights = 0) := by omega
  simp only [shareOut, hnone, if_false]
  exact (raisedAt_addShares _ weights sizes tracks).trans (raisedAt_addRemainder _ _ tracks)
    fun i hi => isWeighted_iff.2 hi.1

/-- Without space or weights nothing happens. -/
theorem shareOut_eq_self {sizes : List Int} {container : Int} {tracks : List Track} {weights : Nat}
    (h : container - total sizes ≤ 0 ∨ weights = 0) :
    shareOut sizes container tracks weights = sizes := if_pos h

theorem changedAt_shareOut (sizes : List Int) (container : Int) (tracks : List Track)
    (weights : Nat) :
    ChangedAt (IsWeighted tracks) sizes (shareOut sizes container tracks weights) := by
  by_cases hnone : container - total sizes ≤ 0 ∨ weights = 0
  · rw [shareOut_eq_self hnone]
    exact .refl sizes
  · exact (raisedAt_shareOut tracks (by omega) (by omega)).toChangedAt

/-! ## Sharing out in 32 bits -/

/-- Space is shared out in 32 bits: these hold the sizes of all tracks with what they get. -/
def SharesFit (sizes : List Int) (container : Int) (tracks : List Track) (weights : Nat) : Prop :=
  0 < container - total sizes → weights ≠ 0 → RaisedAt.Fits (IsWeighted tracks)
    (sharedGain (container - total sizes) weights sizes tracks) sizes

instance (sizes : List Int) (container : Int) (tracks : List Track) (weights : Nat) :
    Decidable (SharesFit sizes container tracks weights) :=
  inferInstanceAs (Decidable (_ → _ → _))

theorem sharedGain_nonneg {space : Int} (h : 0 ≤ space) (weights : Nat) (sizes : List Int)
    (tracks : List Track) (i : Nat) : 0 ≤ sharedGain space weights sizes tracks i := by
  have hshare := share_nonneg h (weightAt tracks i) weights
  unfold sharedGain
  split <;> omega

/-- A track without a weight gets nothing. -/
theorem sharedGain_of_not_isWeighted {tracks : List Track} {i : Nat} (h : ¬IsWeighted tracks i)
    (space : Int) (weights : Nat) (sizes : List Int) :
    sharedGain space weights sizes tracks i = 0 := by
  rw [isWeighted_iff, Nat.pos_iff_ne_zero, not_not] at h
  simp [sharedGain, GetsPixel, h]

/-- Every track gets what is shared out to it. -/
theorem getD_shareOut {sizes : List Int} {container : Int} {tracks : List Track} {weights : Nat}
    (hfit : SharesFit sizes container tracks weights) (hspace : 0 < container - total sizes)
    (hweights : weights ≠ 0) {i : Nat} (hi : i < sizes.length) :
    (shareOut sizes container tracks weights).getD i 0 =
      sizes.getD i 0 + sharedGain (container - total sizes) weights sizes tracks i := by
  have hraised := raisedAt_shareOut tracks hspace hweights
  by_cases hweighted : IsWeighted tracks i
  · exact hraised.getD_eq (hfit hspace hweights) hi hweighted
  · rw [hraised.eq i hweighted, sharedGain_of_not_isWeighted hweighted, add_zero]

theorem grownAt_shareOut {sizes : List Int} {container : Int} {tracks : List Track} {weights : Nat}
    (hfit : SharesFit sizes container tracks weights) :
    GrownAt (IsWeighted tracks) sizes (shareOut sizes container tracks weights) := by
  by_cases hnone : container - total sizes ≤ 0 ∨ weights = 0
  · rw [shareOut_eq_self hnone]
    exact .refl sizes
  · have hspace : 0 < container - total sizes := by omega
    have hweights : weights ≠ 0 := by omega
    exact (raisedAt_shareOut tracks hspace hweights).grownAt
      (fun i _ => sharedGain_nonneg hspace.le weights sizes tracks i) (hfit hspace hweights)

open Finset in
theorem sum_weights_eq (tracks : List Track) :
    (tracks.map Track.weight).sum = ∑ i ∈ range tracks.length, weightAt tracks i := by
  induction tracks with
  | nil => rfl
  | cons track tracks ih =>
    rw [List.map_cons, List.sum_cons, List.length_cons, sum_range_succ', ih, add_comm]
    rfl

open Finset in
theorem sharesSum_eq_sum (space : Int) (weights : Nat) {sizes : List Int} {tracks : List Track}
    (hlen : sizes.length = tracks.length) :
    sharesSum space weights sizes tracks =
      ∑ i ∈ range tracks.length, space * weightAt tracks i / weights := by
  induction sizes generalizing tracks with
  | nil =>
    obtain rfl : tracks = [] := List.length_eq_zero_iff.1 hlen.symm
    rfl
  | cons size sizes ih =>
    cases tracks with
    | nil => simp at hlen
    | cons track tracks =>
      rw [List.length_cons, sum_range_succ', sharesSum, ih (Nat.succ.inj hlen), add_comm]
      rfl

open Finset in
/-- The pixels are all given out, as far as there are tracks with a weight. -/
theorem sum_getsPixel (remainder : Int) (tracks : List Track) :
    ∑ i ∈ range tracks.length, (if GetsPixel tracks remainder i then 1 else 0) =
      max 0 (min remainder (weightedCount tracks)) := by
  induction tracks generalizing remainder with
  | nil => simp [weightedCount]
  | cons track tracks ih =>
    have hzero : GetsPixel (track :: tracks) remainder 0 ↔ 0 < track.weight ∧ 0 < remainder := by
      simp [GetsPixel, weightAt, weightedCount]
    have hcount : (weightedCount (track :: tracks) : Int) =
        weightedCount tracks + if 0 < track.weight then 1 else 0 := by
      by_cases h : 0 < track.weight <;> simp [weightedCount, h]
    rw [List.length_cons, sum_range_succ', hcount]
    simp only [getsPixel_succ, ih, hzero]
    split <;> split <;> omega

open Finset in
/-- **The tracks get all of the space**, if one has a weight. -/
theorem sum_sharedGain {space : Int} {sizes : List Int} {tracks : List Track}
    (hlen : sizes.length = tracks.length) (hweights : 0 < (tracks.map Track.weight).sum) :
    ∑ i ∈ range sizes.length with IsWeighted tracks i,
      sharedGain space (tracks.map Track.weight).sum sizes tracks i = space := by
  obtain ⟨hlow, hhigh⟩ := sharesSum_bounds space hweights hlen
  have hall : ∑ i ∈ range sizes.length with IsWeighted tracks i,
      sharedGain space (tracks.map Track.weight).sum sizes tracks i =
        ∑ i ∈ range tracks.length,
          sharedGain space (tracks.map Track.weight).sum sizes tracks i := by
    rw [hlen]
    refine sum_filter_of_ne fun i _ hne => ?_
    by_contra hnone
    exact hne (sharedGain_of_not_isWeighted hnone _ _ _)
  rw [hall]
  simp only [sharedGain, sum_add_distrib, ← sharesSum_eq_sum _ _ hlen, sum_getsPixel]
  omega

open Finset in
/-- With a weight somewhere, tracks that do not fill the container are made to do so. -/
theorem total_shareOut {sizes : List Int} {tracks : List Track} {container : Int}
    (hlen : sizes.length = tracks.length)
    (hfit : SharesFit sizes container tracks (tracks.map Track.weight).sum) :
    total (shareOut sizes container tracks (tracks.map Track.weight).sum) =
      if 0 < (tracks.map Track.weight).sum then max (total sizes) container else total sizes := by
  by_cases hnone : container - total sizes ≤ 0 ∨ (tracks.map Track.weight).sum = 0
  · rw [shareOut_eq_self hnone]
    split <;> omega
  · have hspace : 0 < container - total sizes := by omega
    have hweights : (tracks.map Track.weight).sum ≠ 0 := by omega
    have hraised := raisedAt_shareOut tracks hspace hweights
    rw [total_eq_sum, hraised.length_eq, hraised.sum_eq_add (hfit hspace hweights)
      fun i hi _ => mem_range.1 hi, sum_sharedGain hlen (Nat.pos_of_ne_zero hweights),
      ← total_eq_sum, if_pos (Nat.pos_of_ne_zero hweights)]
    omega

/-! ## What a track gets at most -/

theorem weightAt_le_sum (tracks : List Track) (i : Nat) :
    weightAt tracks i ≤ (tracks.map Track.weight).sum := by
  unfold weightAt
  rcases h : tracks[i]? with _ | track
  · exact Nat.zero_le _
  · exact List.le_sum_of_mem (List.mem_map_of_mem (List.mem_of_getElem? h))

/-- A share is at most all of the space. -/
theorem share_le {space : Int} (h : 0 ≤ space) {weight weights : Nat} (hle : weight ≤ weights) :
    space * weight / weights ≤ space := by
  rcases Nat.eq_zero_or_pos weights with rfl | hpos
  · simpa using h
  · refine Int.ediv_le_of_le_mul (Int.natCast_pos.2 hpos) ?_
    exact Int.mul_le_mul_of_nonneg_left (Int.ofNat_le.2 hle) h

/-- A share is at most all shares together. -/
theorem share_le_sharesSum {space : Int} (h : 0 ≤ space) (weights : Nat) {sizes : List Int}
    (tracks : List Track) {i : Nat} (hi : i < sizes.length) :
    space * weightAt tracks i / weights ≤ sharesSum space weights sizes tracks := by
  have hnonneg (sizes : List Int) (tracks : List Track) :
      0 ≤ sharesSum space weights sizes tracks := by
    induction sizes generalizing tracks with
    | nil => exact le_rfl
    | cons size sizes ih =>
      cases tracks with
      | nil => exact le_rfl
      | cons track tracks => exact Int.add_nonneg (share_nonneg h track.weight weights) (ih tracks)
  induction sizes generalizing tracks i with
  | nil => simp at hi
  | cons size sizes ih =>
    cases tracks with
    | nil => simp [weightAt, sharesSum]
    | cons track tracks =>
      cases i with
      | zero => exact le_add_of_nonneg_right (hnonneg sizes tracks)
      | succ i =>
        exact (ih tracks (Nat.lt_of_succ_lt_succ hi)).trans
          (le_add_of_nonneg_left (share_nonneg h track.weight weights))

/-- No track gets more than the space, if the weights are at least those of the tracks. -/
theorem sharedGain_le {space : Int} (h : 0 ≤ space) {weights : Nat} {sizes : List Int}
    {tracks : List Track} (hle : (tracks.map Track.weight).sum ≤ weights) {i : Nat}
    (hi : i < sizes.length) : sharedGain space weights sizes tracks i ≤ space := by
  have hshare := share_le h ((weightAt_le_sum tracks i).trans hle)
  have hshares := share_le_sharesSum h weights tracks hi
  unfold sharedGain
  split
  · next hgets =>
    -- a pixel is left over, so the shares together do not take up the space
    have hleft := hgets.2
    omega
  · omega

/-- Where no size is negative, 32 bits hold all sizes if they hold the container. -/
theorem sharesFit_of_nonneg {sizes : List Int} (hnonneg : ∀ i, 0 ≤ sizes.getD i 0) {container : Int}
    (hcontainer : container ≤ 2147483647) {tracks : List Track} {weights : Nat}
    (hle : (tracks.map Track.weight).sum ≤ weights) :
    SharesFit sizes container tracks weights := by
  intro hspace _ i hi _
  have hcell : sizes.getD i 0 ≤ total sizes := getD_le_total hnonneg hi
  have hgain := sharedGain_le hspace.le hle hi
  have hlow := sharedGain_nonneg hspace.le weights sizes tracks i
  have hsize := hnonneg i
  exact ⟨by omega, by omega⟩

/-- **A size becomes no larger than with all of the space**, if it is one that 32 bits hold. -/
theorem getD_shareOut_le {sizes : List Int} {container : Int} {tracks : List Track} {weights : Nat}
    (hle : (tracks.map Track.weight).sum ≤ weights) {i : Nat}
    (hsize : Representable (sizes.getD i 0)) :
    (shareOut sizes container tracks weights).getD i 0 ≤
      sizes.getD i 0 + max (container - total sizes) 0 := by
  by_cases hnone : container - total sizes ≤ 0 ∨ weights = 0
  · rw [shareOut_eq_self hnone]
    omega
  have hspace : 0 < container - total sizes := by omega
  have hraised := raisedAt_shareOut tracks hspace (show weights ≠ 0 by omega)
  by_cases hweighted : IsWeighted tracks i
  · by_cases hi : i < sizes.length
    · have hgain := sharedGain_le hspace.le hle hi
      have hnonneg := sharedGain_nonneg hspace.le weights sizes tracks i
      have hlow := hsize.1
      rw [hraised.raised i hi hweighted]
      exact (wrap_le_self (by omega)).trans (by omega)
    · have hlen := hraised.length_eq
      simp [List.getD_eq_getElem?_getD, List.getElem?_eq_none (Nat.le_of_not_lt hi),
        List.getElem?_eq_none (hlen.trans_le (Nat.le_of_not_lt hi))]
  · rw [hraised.eq i hweighted]
    omega

end GridLayout

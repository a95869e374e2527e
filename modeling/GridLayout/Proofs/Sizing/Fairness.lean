import GridLayout.Proofs.Sizing.Shares

/-!
# Fair shares

The space left in a container is shared out as fairly as whole pixels allow. Every track with a
weight gets its share of the space, rounded down, and the pixels that rounding leaves over go to the
first of these tracks, one to each. Rounding loses less than a pixel for each of them, so one pass
over the tracks gives out everything.

* `flooredShare` and `leftOver`: the share of a track, and what all shares together leave over.
* `leftOver_bounds`: fewer pixels are left over than there are tracks with a weight.
* `fairGain`: what a track gets of the space, and `SharesFairly`: how the sizes then relate to those
  before.
* `shareOut_fair`: every track is given what is fair, if there is space, and nothing happens
  otherwise. The new sizes are fair exactly if 32 bits hold them; a share may have 33.
-/

namespace GridLayout

open Finset

/-! ## The tracks with a weight -/

/-- The indices of the tracks with a weight. -/
def weightedIndices (tracks : List Track) : List Nat :=
  tracks.findIdxs fun track => 0 < track.weight

theorem length_weightedIndices (tracks : List Track) :
    (weightedIndices tracks).length = weightedCount tracks :=
  List.length_findIdxs

theorem mem_weightedIndices {tracks : List Track} {i : Nat} :
    i ∈ weightedIndices tracks ↔ IsWeighted tracks i := by
  simp [weightedIndices, IsWeighted, List.getElem?_eq_some_iff]

/-- The weighted tracks among the first ones are the first weighted tracks. -/
theorem weightedIndices_take (tracks : List Track) (n : Nat) :
    weightedIndices (tracks.take n) =
      (weightedIndices tracks).take (weightedCount (tracks.take n)) :=
  List.findIdxs_take

theorem isWeighted_take {tracks : List Track} {i n : Nat} :
    IsWeighted (tracks.take n) i ↔ IsWeighted tracks i ∧ i < n := by
  simp only [IsWeighted, List.getElem?_take]
  by_cases hi : i < n <;> simp [hi]

theorem weightedCount_take_succ {tracks : List Track} {i : Nat} (h : IsWeighted tracks i) :
    weightedCount (tracks.take (i + 1)) = weightedCount (tracks.take i) + 1 := by
  obtain ⟨track, htrack, hweight⟩ := h
  simp [weightedCount, List.take_add_one, htrack, hweight]

/-- A weighted track is one of the first `r` exactly if there are fewer than `r` before it. -/
theorem mem_take_weightedIndices {tracks : List Track} {i r : Nat} :
    i ∈ (weightedIndices tracks).take r ↔
      IsWeighted tracks i ∧ weightedCount (tracks.take i) < r := by
  have hprefix {m n : Nat} (hmn : m ≤ n) (hi : i ∈ (weightedIndices tracks).take m) :
      i ∈ (weightedIndices tracks).take n := (List.take_sublist_take_left hmn).mem hi
  constructor
  · intro hi
    refine ⟨mem_weightedIndices.1 (List.mem_of_mem_take hi), ?_⟩
    by_contra hle
    have hbefore := hprefix (Nat.le_of_not_lt hle) hi
    rw [← weightedIndices_take, mem_weightedIndices, isWeighted_take] at hbefore
    exact lt_irrefl i hbefore.2
  · rintro ⟨hi, hlt⟩
    refine hprefix (Nat.succ_le_of_lt hlt) ?_
    rw [Nat.succ_eq_add_one, ← weightedCount_take_succ hi, ← weightedIndices_take,
      mem_weightedIndices, isWeighted_take]
    exact ⟨hi, Nat.lt_succ_self i⟩

/-! ## Shares -/

/-- The share that the track at an index has of the space, rounded down. -/
def flooredShare (space : Int) (tracks : List Track) (i : Nat) : Int :=
  space * weightAt tracks i / (tracks.map Track.weight).sum

/-- The pixels that the shares of all tracks leave over. -/
def leftOver (space : Int) (tracks : List Track) : Int :=
  space - ∑ i ∈ range tracks.length, flooredShare space tracks i

theorem sub_sharesSum_eq (space : Int) {sizes : List Int} {tracks : List Track}
    (hlen : sizes.length = tracks.length) :
    space - sharesSum space (tracks.map Track.weight).sum sizes tracks = leftOver space tracks := by
  rw [sharesSum_eq_sum space _ hlen]
  rfl

/-- **Fewer pixels are left over than there are tracks with a weight.** -/
theorem leftOver_bounds (space : Int) {tracks : List Track}
    (hweights : 0 < (tracks.map Track.weight).sum) :
    0 ≤ leftOver space tracks ∧ leftOver space tracks < (weightedIndices tracks).length := by
  -- the bounds on the shares are told along sizes, of which only their number matters
  have hlen : (List.replicate tracks.length (0 : Int)).length = tracks.length :=
    List.length_replicate
  obtain ⟨hlow, hhigh⟩ := mul_sharesSum_bounds space hweights hlen
  have hleft := sub_sharesSum_eq space hlen
  have hcount : 0 < (weightedIndices tracks).length := by
    obtain ⟨i, hi⟩ := sum_weight_pos_iff.1 hweights
    exact List.length_pos_of_mem (mem_weightedIndices.2 hi)
  rw [length_weightedIndices] at hcount ⊢
  have hpos : (0 : Int) < (tracks.map Track.weight).sum := Int.natCast_pos.2 hweights
  generalize (tracks.map Track.weight).sum = weights at *
  generalize sharesSum space weights _ tracks = shares at *
  have hmul : weights * leftOver space tracks = space * weights - weights * shares := by
    rw [← hleft, mul_sub, mul_comm (weights : Int) space]
  constructor
  · refine Int.nonneg_of_mul_nonneg_right (a := (weights : Int)) ?_ hpos
    omega
  · refine Int.lt_of_mul_lt_mul_left (a := (weights : Int)) ?_ hpos.le
    have hless : (weights - 1 : Int) * weightedCount tracks < weights * weightedCount tracks := by
      rw [sub_mul, one_mul]
      omega
    omega

/-! ## What is shared out -/

/-- What a track gets of the space: its share, rounded down, and a pixel more if it is one of the
first ones with a weight and so many pixels are left over. -/
def fairGain (space : Int) (tracks : List Track) (i : Nat) : Int :=
  flooredShare space tracks i +
    if i ∈ (weightedIndices tracks).take (leftOver space tracks).toNat then 1 else 0

theorem sharedGain_eq_fairGain (space : Int) {sizes : List Int} {tracks : List Track}
    (hlen : sizes.length = tracks.length) :
    sharedGain space (tracks.map Track.weight).sum sizes tracks = fairGain space tracks := by
  funext i
  unfold sharedGain fairGain
  refine congrArg₂ (· + ·) rfl (if_congr ?_ rfl rfl)
  rw [mem_take_weightedIndices, Int.lt_toNat, isWeighted_iff, sub_sharesSum_eq space hlen]
  rfl

/-- The tracks share the space of a container fairly: they fill it, a track without a weight gets
nothing, and one with a weight its share, rounded down, and a pixel more if it is one of the first
ones and so many pixels are left over. -/
structure SharesFairly (tracks : List Track) (container : Int) (before after : List Int) :
    Prop where
  length_eq : after.length = before.length
  total_eq : total after = container
  unweighted : ∀ i, ¬IsWeighted tracks i → after.getD i 0 = before.getD i 0
  leftOver_nonneg : 0 ≤ leftOver (container - total before) tracks
  leftOver_lt : leftOver (container - total before) tracks < (weightedIndices tracks).length
  weighted : ∀ i, IsWeighted tracks i → after.getD i 0 =
    before.getD i 0 + fairGain (container - total before) tracks i

section

variable {sizes : List Int} {tracks : List Track} {container : Int}

/-- Every track with a weight gets what is fair, as far as 32 bits hold its size with that. -/
theorem raisedAt_fairGain (hlen : sizes.length = tracks.length)
    (hspace : 0 < container - total sizes) (hweights : 0 < (tracks.map Track.weight).sum) :
    RaisedAt (IsWeighted tracks) (fairGain (container - total sizes) tracks) sizes
      (shareOut sizes container tracks (tracks.map Track.weight).sum) :=
  sharedGain_eq_fairGain (container - total sizes) hlen ▸
    raisedAt_shareOut tracks hspace hweights.ne'

theorem sharesFairly_shareOut (hlen : sizes.length = tracks.length)
    (hspace : 0 < container - total sizes) (hweights : 0 < (tracks.map Track.weight).sum)
    (hfit : RaisedAt.Fits (IsWeighted tracks) (fairGain (container - total sizes) tracks) sizes) :
    SharesFairly tracks container sizes
      (shareOut sizes container tracks (tracks.map Track.weight).sum) := by
  have hraised := raisedAt_fairGain hlen hspace hweights
  have hfit' : SharesFit sizes container tracks (tracks.map Track.weight).sum :=
    fun _ _ => sharedGain_eq_fairGain (container - total sizes) hlen ▸ hfit
  obtain ⟨hnonneg, hlt⟩ := leftOver_bounds (container - total sizes) hweights
  constructor
  · exact hraised.length_eq
  · rw [total_shareOut hlen hfit', if_pos hweights]
    omega
  · exact hraised.eq
  · exact hnonneg
  · exact hlt
  · intro i hi
    obtain ⟨track, htrack, hweight⟩ := hi
    have hlt : i < sizes.length := hlen ▸ (List.getElem?_eq_some_iff.1 htrack).1
    exact hraised.getD_eq hfit hlt ⟨track, htrack, hweight⟩

/-- **Space is shared out fairly, as far as 32 bits hold the sizes.** With a weight somewhere, and
with tracks that do not fill the container, each track gets its share of the space, rounded down,
and the first tracks with a weight one pixel more, until nothing is left over. Then the container is
filled, unless a size with what it got is cut. Without space or weights nothing happens. -/
theorem shareOut_fair (hlen : sizes.length = tracks.length) (container : Int) :
    let weights := (tracks.map Track.weight).sum
    let space := container - total sizes
    (0 < space → 0 < weights →
      RaisedAt (IsWeighted tracks) (fairGain space tracks) sizes
        (shareOut sizes container tracks weights) ∧
      (SharesFairly tracks container sizes (shareOut sizes container tracks weights) ↔
        ∀ i < sizes.length, IsWeighted tracks i →
          Representable (sizes.getD i 0 + fairGain space tracks i))) ∧
    (space ≤ 0 ∨ weights = 0 → shareOut sizes container tracks weights = sizes) := by
  refine ⟨fun hspace hweights => ?_, fun hnone => shareOut_eq_self hnone⟩
  have hraised := raisedAt_fairGain hlen hspace hweights
  refine ⟨hraised, fun hfair i hi hweighted => ?_, sharesFairly_shareOut hlen hspace hweights⟩
  exact wrap_eq_self_iff.1 ((hraised.raised i hi hweighted).symm.trans (hfair.weighted i hweighted))

end

/-- Three tracks of one weight share 65 pixels: each gets 21, and the first two a pixel more. -/
theorem shareOut_thirds :
    let weighted : Track := { Track.defaultColumn with weight := 33, weight_le := by decide }
    let tracks := [weighted, .defaultColumn, weighted, weighted]
    let sizes : List Int := [10, 5, 20, 1]
    sizes.length = tracks.length ∧ (tracks.map Track.weight).sum = 99 ∧
      shareOut sizes 101 tracks 99 = [32, 5, 42, 22] ∧
      SharesFairly tracks 101 sizes [32, 5, 42, 22] ∧ leftOver 65 tracks = 2 := by
  intro weighted tracks sizes
  have hlen : sizes.length = tracks.length := rfl
  have hshares : shareOut sizes 101 tracks 99 = [32, 5, 42, 22] := by decide +kernel
  have hfair := ((shareOut_fair hlen 101).1 (by decide +kernel) (by decide +kernel)).2.2
    (by decide +kernel)
  exact ⟨hlen, rfl, hshares, hshares ▸ hfair, by decide +kernel⟩

/-- A size of the least number that can be held leaves more space than 32 bits can say. The track
with the weight gets a pixel less than `2 ^ 32` of them, which is cut to one pixel less than
nothing. -/
theorem shareOut_cut :
    let weighted : Track := { Track.defaultColumn with weight := 100, weight_le := by decide }
    let tracks := [.defaultColumn, weighted]
    let sizes : List Int := [-2147483648, 0]
    shareOut sizes 2147483647 tracks 100 = [-2147483648, -1] ∧
      fairGain 4294967295 tracks 1 = 4294967295 ∧
      ¬SharesFairly tracks 2147483647 sizes [-2147483648, -1] := by
  intro weighted tracks sizes
  refine ⟨by decide +kernel, by decide +kernel, fun hfair => ?_⟩
  exact absurd hfair.total_eq (by decide)

end GridLayout

import GridLayout.Proofs.Sizing.Extent

/-!
# Making room for one component

`Grid.accommodate` spreads the pixels that a component lacks over the elastic tracks under it.

* `sum_evenShare`: the even parts of an amount add up to it, so no pixel is lost to rounding.
* `Grid.changedAt_accommodate`: only elastic tracks under the component change, and how depends on
  no other tracks (`Grid.getD_accommodate_congr`).
* `Grid.RoomFits`: 32 bits hold the extent of the tracks, what is missing, and the enlarged sizes.
* Then nothing is cut: sizes only grow (`Grid.grownAt_accommodate`), and over any tracks that
  include those under the component exactly the missing pixels are added (`Grid.sum_accommodate`).
  So afterwards the component has what it claims (`Grid.extent_accommodate`), unless all its tracks
  are fixed.
-/

namespace GridLayout

open Finset

/-! ## Even parts -/

/-- Of an amount that is not negative the parts are its quotient, and one more below its rest. -/
theorem evenShare_of_nonneg {amount : Int} (h : 0 ≤ amount) (count n : Nat) :
    evenShare amount count n =
      amount / count + if (n : Int) < amount % count then 1 else 0 := by
  rw [evenShare, Int.tdiv_eq_ediv_of_nonneg h, Int.tmod_eq_emod_of_nonneg h]

theorem evenShare_nonneg {amount : Int} (h : 0 ≤ amount) (count n : Nat) :
    0 ≤ evenShare amount count n := by
  have hquot : 0 ≤ amount / (count : Int) := Int.ediv_nonneg h (Int.natCast_nonneg count)
  rw [evenShare_of_nonneg h]
  split <;> omega

/-- If there is a pixel for every track, each gets one. -/
theorem evenShare_pos {amount : Int} {count : Nat} (hcount : 0 < count) (h : (count : Int) ≤ amount)
    (n : Nat) : 0 < evenShare amount count n := by
  have hpos : (0 : Int) < count := Int.natCast_pos.2 hcount
  have hquot : 1 ≤ amount / (count : Int) := (Int.le_ediv_iff_mul_le hpos).2 (by omega)
  rw [evenShare_of_nonneg (hpos.le.trans h)]
  split <;> omega

/-- Later parts are no larger than earlier ones, and smaller by a pixel at most. -/
theorem evenShare_le_of_le (amount : Int) (count : Nat) {n n' : Nat} (h : n ≤ n') :
    evenShare amount count n' ≤ evenShare amount count n ∧
      evenShare amount count n ≤ evenShare amount count n' + 1 := by
  unfold evenShare
  split <;> split <;> omega

/-- Of the first `count` numbers, those below `r` are counted. -/
theorem sum_ite_lt (r : Int) (count : Nat) :
    ∑ n ∈ range count, (if (n : Int) < r then 1 else 0) = max 0 (min (count : Int) r) := by
  induction count with
  | zero => simp
  | succ count ih =>
    rw [sum_range_succ, ih]
    split <;> omega

theorem sum_evenShare {amount : Int} (hamount : 0 ≤ amount) {count : Nat} (h : 0 < count) :
    ∑ n ∈ range count, evenShare amount count n = amount := by
  have hpos : (0 : Int) < count := Int.natCast_pos.2 h
  have hmod := Int.emod_nonneg amount hpos.ne'
  have hlt := Int.emod_lt_of_pos amount hpos
  have hdiv := Int.mul_ediv_add_emod amount count
  simp only [evenShare_of_nonneg hamount, sum_add_distrib, sum_const, card_range, Int.nsmul_eq_mul,
    sum_ite_lt]
  omega

/-- No part is larger than the amount. -/
theorem evenShare_le {amount : Int} (hamount : 0 ≤ amount) {count n : Nat} (hn : n < count) :
    evenShare amount count n ≤ amount := by
  have hsum := sum_evenShare hamount (Nat.zero_lt_of_lt hn)
  have hsingle := single_le_sum (fun k _ => evenShare_nonneg hamount count k) (mem_range.2 hn)
  omega

/-! ## Adding to single sizes -/

/-- Add to the size of each track its part, where the parts are numbered along the list. -/
def addParts (part : Nat → Int) (sizes : List Int) (places : List (Nat × Nat)) : List Int :=
  places.foldl (fun sizes (i, n) => sizes.modify i fun size => wrap (size + part n)) sizes

theorem getD_modify (sizes : List Int) (f : Int → Int) (i j : Nat) :
    (sizes.modify i f).getD j 0 =
      if i = j ∧ j < sizes.length then f (sizes.getD j 0) else sizes.getD j 0 := by
  by_cases hj : j < sizes.length
  · by_cases hij : i = j <;> simp [List.getD_eq_getElem?_getD, hj, hij]
  · simp [List.getD_eq_getElem?_getD, hj]

theorem raisedAt_addParts_from (part : Nat → Int) (sizes : List Int) {places : List Nat}
    (hnodup : places.Nodup) (k : Nat) :
    RaisedAt (· ∈ places) (fun i => part (places.idxOf i + k)) sizes
      (addParts part sizes (places.zipIdx k)) := by
  induction places generalizing sizes k with
  | nil => exact ⟨.refl sizes, by simp⟩
  | cons i places ih =>
    obtain ⟨hi, hnodup⟩ := List.nodup_cons.1 hnodup
    have hrest := ih (sizes.modify i fun size => wrap (size + part k)) hnodup (k + 1)
    refine ⟨⟨hrest.length_eq.trans (by simp), fun j hj => ?_⟩, fun j hlt hj => ?_⟩
    · obtain ⟨hji, hj⟩ := not_or.1 (mt List.mem_cons.2 hj)
      exact (hrest.eq j hj).trans (by rw [getD_modify, if_neg fun h => hji h.1.symm])
    · rcases List.mem_cons.1 hj with rfl | hj
      · refine (hrest.eq j hi).trans ?_
        rw [getD_modify, if_pos ⟨rfl, hlt⟩, List.idxOf_cons_self, Nat.zero_add]
      · have hne : i ≠ j := fun heq => hi (heq ▸ hj)
        have hraised := hrest.raised j (by simpa using hlt) hj
        rw [getD_modify, if_neg fun h => hne h.1] at hraised
        rwa [List.idxOf_cons_ne places hne, Nat.succ_add_eq_add_succ]

/-- Each of different places is raised by its own part. -/
theorem raisedAt_addParts (part : Nat → Int) (sizes : List Int) {places : List Nat}
    (hnodup : places.Nodup) :
    RaisedAt (· ∈ places) (fun i => part (places.idxOf i)) sizes
      (addParts part sizes places.zipIdx) := raisedAt_addParts_from part sizes hnodup 0

/-- What a track is after the parts depends on nothing but what it was. -/
theorem getD_addParts_congr (part : Nat → Int) {sizes sizes' : List Int}
    (hlen : sizes'.length = sizes.length) {i : Nat} (h : sizes'.getD i 0 = sizes.getD i 0)
    (places : List (Nat × Nat)) :
    (addParts part sizes' places).getD i 0 = (addParts part sizes places).getD i 0 := by
  induction places generalizing sizes sizes' with
  | nil => exact h
  | cons place places ih =>
    refine ih (by simpa using hlen) ?_
    rw [getD_modify, getD_modify, h, hlen]

/-- The parts of different places, summed up by the places. -/
theorem sum_idxOf (part : Nat → Int) {places : List Nat} (hnodup : places.Nodup) {s : Finset Nat}
    (hs : ∀ i ∈ places, i ∈ s) :
    ∑ i ∈ s with i ∈ places, part (places.idxOf i) = ∑ n ∈ range places.length, part n := by
  have hplaces : {i ∈ s | i ∈ places} = places.toFinset := by
    ext i
    simpa using hs i
  have hparts : places.map (fun i => part (places.idxOf i)) =
      (List.range places.length).map part := by
    refine List.ext_getElem (by simp) fun n hn _ => ?_
    simp [hnodup.idxOf_getElem n (by simpa using hn)]
  rw [hplaces, List.sum_toFinset _ hnodup, hparts]
  rfl

/-! ## Elastic tracks -/

theorem Slot.mem_elastic {s : Slot} {tracks : List Track} {i : Nat} :
    i ∈ s.elastic tracks ↔
      s.Covers i ∧ ∃ track, tracks[i]? = some track ∧ track.sizing ≠ .fixed := by
  simp [Slot.elastic, Slot.Covers, Slot.stop, List.mem_range'_1, Option.any_eq_true]

theorem Slot.notMem_elastic_of_fixed {s : Slot} {tracks : List Track} {i : Nat} {track : Track}
    (htrack : tracks[i]? = some track) (hfixed : track.sizing = .fixed) : i ∉ s.elastic tracks := by
  intro hi
  obtain ⟨-, other, hother, hsizing⟩ := Slot.mem_elastic.1 hi
  obtain rfl := Option.some.inj (htrack.symm.trans hother)
  exact hsizing hfixed

theorem Slot.pairwise_elastic (s : Slot) (tracks : List Track) :
    (s.elastic tracks).Pairwise (· < ·) :=
  List.Pairwise.filter _ List.pairwise_lt_range'

/-- Elastic tracks are numbered from the first one on. -/
theorem Slot.idxOf_elastic_le {s : Slot} {tracks : List Track} {i j : Nat}
    (hi : i ∈ s.elastic tracks) (hj : j ∈ s.elastic tracks) (h : i ≤ j) :
    (s.elastic tracks).idxOf i ≤ (s.elastic tracks).idxOf j := by
  by_contra hlt
  have hbefore := List.pairwise_iff_getElem.1 (s.pairwise_elastic tracks) _ _
    (List.idxOf_lt_length_of_mem hj) (List.idxOf_lt_length_of_mem hi) (by omega)
  simp only [List.getElem_idxOf] at hbefore
  omega

theorem Slot.lt_of_mem_elastic {s : Slot} {tracks : List Track} {i : Nat}
    (h : i ∈ s.elastic tracks) : i < tracks.length ∧ i ∈ Ico s.start s.stop := by
  obtain ⟨hslot, track, htrack, -⟩ := Slot.mem_elastic.1 h
  exact ⟨(List.getElem?_eq_some_iff.1 htrack).1, mem_Ico.2 hslot⟩

theorem Slot.nodup_elastic (s : Slot) (tracks : List Track) : (s.elastic tracks).Nodup :=
  (s.pairwise_elastic tracks).imp Nat.ne_of_lt

theorem Slot.enlarge_eq {s : Slot} {tracks : List Track} (h : s.elastic tracks ≠ [])
    (amount : Int) (sizes : List Int) :
    s.enlarge tracks amount sizes = some (addParts
      (evenShare amount (s.elastic tracks).length) sizes (s.elastic tracks).zipIdx) := by
  simp only [Slot.enlarge, List.isEmpty_iff, h, if_false]
  rfl

/-! ## Accommodating -/

namespace Grid

variable (g : Grid) (m : Measures) (pass : Pass) (axis : Axis)

/-- Where all tracks under a component are fixed, nothing changes. -/
theorem accommodate_of_elastic_eq_nil {e : Entry}
    (h : (e.placement.along axis).elastic (g.tracks axis) = []) (sizes : List Int) :
    g.accommodate m pass axis sizes e = sizes := by
  simp [accommodate, Slot.enlarge, h]

/-- What is missing for a component is spread over the elastic tracks under it. -/
theorem accommodate_of_elastic_ne_nil {e : Entry}
    (h : (e.placement.along axis).elastic (g.tracks axis) ≠ []) (sizes : List Int) :
    g.accommodate m pass axis sizes e =
      let slot := e.placement.along axis
      let elastic := slot.elastic (g.tracks axis)
      let missing := wrap (g.claim m pass axis e - slot.extent sizes)
      if wrap (slot.extent sizes) < g.claim m pass axis e then
        addParts (evenShare missing elastic.length) sizes elastic.zipIdx
      else sizes := by
  simp only [accommodate, Slot.enlarge_eq h, Option.getD_some, wrap_sub_wrap]

theorem changedAt_accommodate (sizes : List Int) (e : Entry) :
    ChangedAt (· ∈ (e.placement.along axis).elastic (g.tracks axis)) sizes
      (g.accommodate m pass axis sizes e) := by
  by_cases h : (e.placement.along axis).elastic (g.tracks axis) = []
  · rw [accommodate_of_elastic_eq_nil g m pass axis h]
    exact .refl sizes
  · simp only [accommodate_of_elastic_ne_nil g m pass axis h]
    split
    · exact (raisedAt_addParts _ sizes ((e.placement.along axis).nodup_elastic _)).toChangedAt
    · exact .refl sizes

/-- What a track is after the turn of a component depends on what it was and on the tracks under the
component. -/
theorem getD_accommodate_congr {sizes sizes' : List Int} (hlen : sizes'.length = sizes.length)
    {e : Entry}
    (hcells : ∀ j ∈ Ico (e.placement.along axis).start (e.placement.along axis).stop,
      sizes'.getD j 0 = sizes.getD j 0) {i : Nat} (hi : sizes'.getD i 0 = sizes.getD i 0) :
    (g.accommodate m pass axis sizes' e).getD i 0 =
      (g.accommodate m pass axis sizes e).getD i 0 := by
  by_cases h : (e.placement.along axis).elastic (g.tracks axis) = []
  · rw [accommodate_of_elastic_eq_nil g m pass axis h,
      accommodate_of_elastic_eq_nil g m pass axis h, hi]
  · have hextent : (e.placement.along axis).extent sizes' =
        (e.placement.along axis).extent sizes := by
      rw [Slot.extent_eq_sum, Slot.extent_eq_sum, sum_congr rfl hcells]
    simp only [accommodate_of_elastic_ne_nil g m pass axis h, hextent]
    split
    · exact getD_addParts_congr _ hlen hi _
    · exact hi

/-! ## Accommodating in 32 bits -/

/-- The part of what is missing for a component that the elastic track at the index gets. -/
def part (sizes : List Int) (e : Entry) (i : Nat) : Int :=
  let slot := e.placement.along axis
  let elastic := slot.elastic (g.tracks axis)
  evenShare (g.claim m pass axis e - slot.extent sizes) elastic.length (elastic.idxOf i)

/-- Room is made for a component in 32 bits: these hold the extent of its tracks, what is missing
for it, and the sizes of its elastic tracks with their parts of that. -/
structure RoomFits (sizes : List Int) (e : Entry) : Prop where
  extent : Representable ((e.placement.along axis).extent sizes)
  missing : (e.placement.along axis).extent sizes < g.claim m pass axis e →
    Representable (g.claim m pass axis e - (e.placement.along axis).extent sizes)
  parts : (e.placement.along axis).extent sizes < g.claim m pass axis e →
    RaisedAt.Fits (· ∈ (e.placement.along axis).elastic (g.tracks axis))
      (g.part m pass axis sizes e) sizes

variable {g m pass axis} {sizes : List Int} {e : Entry}

instance : Decidable (g.RoomFits m pass axis sizes e) :=
  decidable_of_iff (_ ∧ _ ∧ _) ⟨fun h => ⟨h.1, h.2.1, h.2.2⟩, fun h => ⟨h.1, h.2, h.3⟩⟩

/-- A component that has what it claims changes nothing. -/
theorem accommodate_of_claim_le (hfit : g.RoomFits m pass axis sizes e)
    (h : g.claim m pass axis e ≤ (e.placement.along axis).extent sizes) :
    g.accommodate m pass axis sizes e = sizes :=
  if_neg (by rw [wrap_eq_self hfit.extent]; exact h.not_gt)

/-- Each elastic track gets its part of what is missing. -/
theorem raisedAt_accommodate (hfit : g.RoomFits m pass axis sizes e)
    (h : (e.placement.along axis).extent sizes < g.claim m pass axis e) :
    RaisedAt (· ∈ (e.placement.along axis).elastic (g.tracks axis)) (g.part m pass axis sizes e)
      sizes (g.accommodate m pass axis sizes e) := by
  by_cases helastic : (e.placement.along axis).elastic (g.tracks axis) = []
  · rw [accommodate_of_elastic_eq_nil g m pass axis helastic, helastic]
    exact ⟨.refl sizes, by simp⟩
  · simp only [accommodate_of_elastic_ne_nil g m pass axis helastic, wrap_eq_self hfit.extent, h,
      if_true, wrap_eq_self (hfit.missing h)]
    exact raisedAt_addParts (evenShare _ _) sizes ((e.placement.along axis).nodup_elastic _)

theorem part_nonneg (h : (e.placement.along axis).extent sizes < g.claim m pass axis e) (i : Nat) :
    0 ≤ g.part m pass axis sizes e i := evenShare_nonneg (Int.sub_pos_of_lt h).le _ _

variable (g m pass axis sizes) in
/-- The part of a later track is no larger, and smaller by a pixel at most. -/
theorem part_le_part {i j : Nat} (hi : i ∈ (e.placement.along axis).elastic (g.tracks axis))
    (hj : j ∈ (e.placement.along axis).elastic (g.tracks axis)) (hij : i ≤ j) :
    g.part m pass axis sizes e j ≤ g.part m pass axis sizes e i ∧
      g.part m pass axis sizes e i ≤ g.part m pass axis sizes e j + 1 :=
  evenShare_le_of_le _ _ (Slot.idxOf_elastic_le hi hj hij)

theorem grownAt_accommodate (hfit : g.RoomFits m pass axis sizes e) :
    GrownAt (· ∈ (e.placement.along axis).elastic (g.tracks axis)) sizes
      (g.accommodate m pass axis sizes e) := by
  rcases lt_or_ge ((e.placement.along axis).extent sizes) (g.claim m pass axis e) with h | h
  · exact (raisedAt_accommodate hfit h).grownAt (fun i _ => part_nonneg h i) (hfit.parts h)
  · rw [accommodate_of_claim_le hfit h]
    exact .refl sizes

/-- An elastic track gets no more than all that is missing. -/
theorem part_le (h : (e.placement.along axis).extent sizes < g.claim m pass axis e) {i : Nat}
    (hi : i ∈ (e.placement.along axis).elastic (g.tracks axis)) :
    g.part m pass axis sizes e i ≤
      g.claim m pass axis e - (e.placement.along axis).extent sizes :=
  evenShare_le (Int.sub_pos_of_lt h).le (List.idxOf_lt_length_of_mem hi)

/-- Where no size is negative and 32 bits hold the claim and the extent, they hold all the rest. -/
theorem roomFits_of_nonneg (hnonneg : ∀ i, 0 ≤ sizes.getD i 0)
    (hextent : (e.placement.along axis).extent sizes ≤ 2147483647)
    (hclaim : g.claim m pass axis e ≤ 2147483647) : g.RoomFits m pass axis sizes e := by
  have hsum := Slot.extent_eq_sum (e.placement.along axis) sizes
  have hpos := (e.placement.along axis).extent_nonneg hnonneg
  constructor
  · exact ⟨by omega, hextent⟩
  · exact fun h => ⟨by omega, by omega⟩
  · intro h i _ hi
    -- the track and its part are at most what the component claims
    have hcell : sizes.getD i 0 ≤ (e.placement.along axis).extent sizes :=
      hsum ▸ single_le_sum (fun j _ => hnonneg j) (Slot.lt_of_mem_elastic hi).2
    have hpart := part_le h hi
    have hlow := add_nonneg (hnonneg i) (part_nonneg h i)
    exact ⟨by omega, by omega⟩

/-- No track grows by more than what is missing. -/
theorem getD_accommodate_le (hfit : g.RoomFits m pass axis sizes e)
    (hlen : sizes.length = g.count axis) (i : Nat) :
    (g.accommodate m pass axis sizes e).getD i 0 ≤
      sizes.getD i 0 + max 0 (g.claim m pass axis e - (e.placement.along axis).extent sizes) := by
  rcases lt_or_ge ((e.placement.along axis).extent sizes) (g.claim m pass axis e) with hlt | hge
  · by_cases hi : i ∈ (e.placement.along axis).elastic (g.tracks axis)
    · have hpart := part_le hlt hi
      rw [(raisedAt_accommodate hfit hlt).getD_eq (hfit.parts hlt)
        (hlen ▸ (Slot.lt_of_mem_elastic hi).1) hi]
      omega
    · rw [(raisedAt_accommodate hfit hlt).eq i hi]
      omega
  · rw [accommodate_of_claim_le hfit hge]
    omega

/-- If a pixel is missing for every elastic track, each of them grows. -/
theorem lt_accommodate (hfit : g.RoomFits m pass axis sizes e) (hlen : sizes.length = g.count axis)
    (h : ((e.placement.along axis).elastic (g.tracks axis)).length ≤
      g.claim m pass axis e - (e.placement.along axis).extent sizes)
    {i : Nat} (hi : i ∈ (e.placement.along axis).elastic (g.tracks axis)) :
    sizes.getD i 0 < (g.accommodate m pass axis sizes e).getD i 0 := by
  have hpos := List.length_pos_of_mem hi
  have hmissing : (e.placement.along axis).extent sizes < g.claim m pass axis e := by omega
  rw [(raisedAt_accommodate hfit hmissing).getD_eq (hfit.parts hmissing)
    (hlen ▸ (Slot.lt_of_mem_elastic hi).1) hi]
  exact lt_add_of_pos_right _ (evenShare_pos hpos h _)

/-- Over tracks among which all those under the component are, the missing pixels are added. -/
theorem sum_accommodate (hfit : g.RoomFits m pass axis sizes e)
    (hlen : sizes.length = g.count axis)
    (h : (e.placement.along axis).elastic (g.tracks axis) ≠ []) {s : Finset Nat}
    (hs : Ico (e.placement.along axis).start (e.placement.along axis).stop ⊆ s) :
    ∑ j ∈ s, (g.accommodate m pass axis sizes e).getD j 0 = ∑ j ∈ s, sizes.getD j 0 +
      max 0 (g.claim m pass axis e - (e.placement.along axis).extent sizes) := by
  rcases lt_or_ge ((e.placement.along axis).extent sizes) (g.claim m pass axis e) with hlt | hge
  · have hparts : ∑ j ∈ s with j ∈ (e.placement.along axis).elastic (g.tracks axis),
        g.part m pass axis sizes e j =
          g.claim m pass axis e - (e.placement.along axis).extent sizes :=
      (sum_idxOf _ ((e.placement.along axis).nodup_elastic _) fun i hi =>
        hs (Slot.lt_of_mem_elastic hi).2).trans
          (sum_evenShare (Int.sub_pos_of_lt hlt).le (List.length_pos_of_ne_nil h))
    rw [(raisedAt_accommodate hfit hlt).sum_eq_add (hfit.parts hlt)
      fun i _ hi => hlen ▸ (Slot.lt_of_mem_elastic hi).1, hparts]
    omega
  · rw [accommodate_of_claim_le hfit hge]
    omega

/-- A component that covers an elastic track has what it claims, or what it had before if that is
more. -/
theorem extent_accommodate (hfit : g.RoomFits m pass axis sizes e)
    (hlen : sizes.length = g.count axis)
    (h : (e.placement.along axis).elastic (g.tracks axis) ≠ []) :
    (e.placement.along axis).extent (g.accommodate m pass axis sizes e) =
      max ((e.placement.along axis).extent sizes) (g.claim m pass axis e) := by
  rw [Slot.extent_eq_sum, sum_accommodate hfit hlen h (Subset.refl _), ← Slot.extent_eq_sum]
  omega

end Grid

end GridLayout

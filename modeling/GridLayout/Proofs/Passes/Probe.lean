import GridLayout.Platform
import GridLayout.Proofs.Passes.Nested

/-!
# Probes

A probe is a grid of usual tracks in which the components of several tracks lie, along one axis, as
they do in another grid, and every track has a component of its own besides. The measures of a probe
give every one of these components any extent in either pass, so the base sizes are free
(`Grid.getD_scanBaseSizes_probe`), and so is what each spanning component claims
(`Grid.claim_probeEntry`).
-/

namespace GridLayout

open Finset

/-- A component with a slot along the axis and a single track across it. -/
def probeEntry (axis : Axis) (id other start span : Nat) : Entry :=
  ⟨⟨id⟩, .ofFun fun a => if a = axis then ⟨start, span, none, none⟩ else .single other⟩

@[simp] theorem along_probeEntry (axis : Axis) (id other start span : Nat) :
    (probeEntry axis id other start span).placement.along axis = ⟨start, span, none, none⟩ := by
  simp [probeEntry]

theorem along_probeEntry_of_ne {a axis : Axis} (h : a ≠ axis) (id other start span : Nat) :
    (probeEntry axis id other start span).placement.along a = .single other := by
  simp [probeEntry, h]

/-- Slots that differ along an axis start in different cells. -/
theorem corner_ne_of_start_ne {p q : Placement} (a : Axis)
    (h : (p.along a).start ≠ (q.along a).start) : p.corner ≠ q.corner := by
  intro heq
  obtain ⟨hh, hv⟩ := Prod.mk.inj heq
  cases a
  · exact h hh
  · exact h hv

/-- Slots by start and span, with the number of each as the track across. -/
def probeSpans (axis : Axis) (spans : List (Nat × Nat)) (first : Nat) : List Entry :=
  (spans.zipIdx first).map fun (p, i) => probeEntry axis i i p.1 p.2

theorem exists_of_mem_probeSpans {axis : Axis} {spans : List (Nat × Nat)} {first : Nat} {e : Entry}
    (he : e ∈ probeSpans axis spans first) : ∃ p ∈ spans, ∃ i, first ≤ i ∧
      i < first + spans.length ∧ e = probeEntry axis i i p.1 p.2 := by
  obtain ⟨⟨p, i⟩, hp, rfl⟩ := List.mem_map.1 he
  exact ⟨p, List.fst_mem_of_mem_zipIdx hp, i, List.le_snd_of_mem_zipIdx hp,
    List.snd_lt_add_of_mem_zipIdx hp, rfl⟩

/-- A component of its own for every track, all in one track across. -/
def probeSingles (axis : Axis) (count first : Nat) : List Entry :=
  (List.range count).map fun i => probeEntry axis (first + i) first i 1

namespace Grid

/-- The grid with the given slots and groups along the axis, and a component in each track. -/
def probe (axis : Axis) (count : Nat) (spans : List (Nat × Nat)) (groups : List TrackGroup) :
    Grid :=
  ⟨.ofFun fun a =>
      if a = axis then ⟨List.replicate count .defaultColumn, groups⟩
      else ⟨List.replicate (spans.length + 1) .defaultColumn, []⟩,
    probeSpans axis spans 0 ++ probeSingles axis count spans.length, true⟩

/-- The slots span several tracks each, and lie inside. -/
def SpansInside (spans : List (Nat × Nat)) (count : Nat) : Prop :=
  ∀ p ∈ spans, 2 ≤ p.2 ∧ p.1 + p.2 ≤ count

variable {axis : Axis} {count : Nat} {spans : List (Nat × Nat)} {groups : List TrackGroup}

@[simp] theorem tracks_probe :
    (probe axis count spans groups).tracks axis = List.replicate count .defaultColumn := by
  simp [probe, tracks]

@[simp] theorem groups_probe : (probe axis count spans groups).groups axis = groups := by
  simp [probe, Grid.groups]

@[simp] theorem count_probe : (probe axis count spans groups).count axis = count := by
  simp [Grid.count]

theorem count_probe_of_ne {a : Axis} (h : a ≠ axis) :
    (probe axis count spans groups).count a = spans.length + 1 := by
  simp [probe, Grid.count, tracks, h]

theorem groups_probe_of_ne {a : Axis} (h : a ≠ axis) :
    (probe axis count spans groups).groups a = [] := by
  simp [probe, Grid.groups, h]

theorem groupsInside_probe (h : GroupsFit groups count) (a : Axis) :
    (probe axis count spans groups).GroupsInside a := by
  by_cases ha : a = axis
  · subst ha
    simpa [GroupsInside] using h
  · simp [GroupsInside, groups_probe_of_ne ha, GroupsFit]

/-! ## A probe has no fault -/

theorem fits_probeEntry {id other start span : Nat} (hspan : 0 < span)
    (hstop : start + span ≤ count) (hother : other < spans.length + 1) :
    (probeEntry axis id other start span).Fits (probe axis count spans groups) := by
  constructor <;> intro a <;> by_cases ha : a = axis
  · subst ha
    simpa using hspan
  · rw [along_probeEntry_of_ne ha]
    exact Nat.one_pos
  · subst ha
    simpa [Slot.stop] using hstop
  · rw [along_probeEntry_of_ne ha, count_probe_of_ne ha]
    exact hother
  · subst ha
    simp
  · rw [along_probeEntry_of_ne ha]
    simp [Slot.single]

theorem corner_probeEntry_ne_of_start {id id' other other' start start' span span' : Nat}
    (h : start ≠ start') : (probeEntry axis id other start span).placement.corner ≠
      (probeEntry axis id' other' start' span').placement.corner :=
  corner_ne_of_start_ne axis (by simpa using h)

theorem corner_probeEntry_ne_of_other {id id' other other' start start' span span' : Nat}
    (h : other ≠ other') : (probeEntry axis id other start span).placement.corner ≠
      (probeEntry axis id' other' start' span').placement.corner := by
  have hne : axis.other ≠ axis := by cases axis <;> decide
  refine corner_ne_of_start_ne axis.other ?_
  rw [along_probeEntry_of_ne hne, along_probeEntry_of_ne hne]
  exact h

/-- A probe has no fault: slots lie in different tracks across, and single tracks differ. -/
theorem check_probe (h : SpansInside spans count) :
    (probe axis count spans groups).check = .ok () := by
  refine check_eq_ok_iff.2 ⟨fun e he => ?_, List.pairwise_append.2 ⟨?_, ?_, fun e he e' he' => ?_⟩⟩
  · rcases List.mem_append.1 he with he | he
    · obtain ⟨p, hp, i, -, hi, rfl⟩ := exists_of_mem_probeSpans he
      obtain ⟨htwo, hstop⟩ := h p hp
      exact fits_probeEntry (by omega) hstop (by omega)
    · obtain ⟨i, hi, rfl⟩ := List.mem_map.1 he
      exact fits_probeEntry Nat.one_pos (List.mem_range.1 hi) (Nat.lt_succ_self _)
  · have hindices : (spans.zipIdx.map Prod.snd).Pairwise (· < ·) := by
      rw [List.zipIdx_map_snd]
      exact List.pairwise_lt_range'
    refine List.pairwise_map.2 ((List.pairwise_map.1 hindices).imp fun hlt => ?_)
    exact corner_probeEntry_ne_of_other hlt.ne
  · refine List.pairwise_map.2 (List.pairwise_lt_range.imp fun hlt => ?_)
    exact corner_probeEntry_ne_of_start hlt.ne
  · obtain ⟨p, hp, i, -, hi, rfl⟩ := exists_of_mem_probeSpans he
    obtain ⟨j, hj, rfl⟩ := List.mem_map.1 he'
    exact corner_probeEntry_ne_of_other (by omega)

theorem nodup_components_probe :
    ((probe axis count spans groups).components.map Entry.id).Nodup := by
  have hids : (probe axis count spans groups).components.map Entry.id =
      (List.range (spans.length + count)).map ComponentId.mk := by
    simp only [probe, probeSpans, probeSingles, List.map_append, List.map_map, List.range_add]
    congr 1
    rw [List.range_eq_range', ← List.zipIdx_map_snd 0 spans, List.map_map]
    rfl
  rw [hids]
  exact List.nodup_range.map fun i j hij => ComponentId.mk.inj hij

theorem tracks_probe_ne_nil (hcount : 0 < count) (a : Axis) :
    (probe axis count spans groups).tracks a ≠ [] := by
  rw [← List.length_pos_iff]
  change 0 < (probe axis count spans groups).count a
  by_cases ha : a = axis
  · subst ha
    rwa [count_probe]
  · rw [count_probe_of_ne ha]
    exact Nat.succ_pos _

/-! ## Its components -/

theorem spanning_probe (h : SpansInside spans count) :
    (probe axis count spans groups).spanning axis = probeSpans axis spans 0 := by
  have hspans : (probeSpans axis spans 0).filter (Entry.isSpanning axis) =
      probeSpans axis spans 0 := by
    refine List.filter_eq_self.2 fun e he => ?_
    obtain ⟨p, hp, i, -, -, rfl⟩ := exists_of_mem_probeSpans he
    have htwo := (h p hp).1
    simp only [Entry.isSpanning, along_probeEntry, bne_iff_ne, ne_eq]
    omega
  have hsingles : (probeSingles axis count spans.length).filter (Entry.isSpanning axis) = [] := by
    refine List.filter_eq_nil_iff.2 fun e he => ?_
    obtain ⟨i, hi, rfl⟩ := List.mem_map.1 he
    simp [Entry.isSpanning]
  simp only [spanning, probe, List.filter_append, hspans, hsingles, List.append_nil]

/-- The only component of a single track is its own. -/
theorem mem_aloneIn_probe (h : SpansInside spans count) {i : Nat} {e : Entry} :
    e ∈ (probe axis count spans groups).aloneIn axis i ↔
      i < count ∧ e = probeEntry axis (spans.length + i) spans.length i 1 := by
  simp only [aloneIn, probe, List.mem_filter, List.mem_append]
  constructor
  · rintro ⟨he | he, halone⟩
    · obtain ⟨p, hp, j, -, -, rfl⟩ := exists_of_mem_probeSpans he
      have htwo := (h p hp).1
      simp only [Entry.isAlone, along_probeEntry, Bool.and_eq_true, beq_iff_eq] at halone
      omega
    · obtain ⟨j, hj, rfl⟩ := List.mem_map.1 he
      obtain rfl : j = i := by simpa [Entry.isAlone] using halone
      exact ⟨List.mem_range.1 hj, rfl⟩
  · rintro ⟨hi, rfl⟩
    refine ⟨.inr (List.mem_map.2 ⟨i, List.mem_range.2 hi, rfl⟩), ?_⟩
    simp [Entry.isAlone]

end Grid

/-! ## Measures -/

/-- The measures of a probe of so many slots: across they are nothing; along the axis they are given
for each slot, and for each track and pass. -/
def probeMeasures (axis : Axis) (slots : Nat) (spans : Nat → Int) (tracks : Pass → Nat → Int) :
    Measures :=
  let extent (pass : Pass) (id : ComponentId) (a : Axis) : Int :=
    if a = axis then
      if id.value < slots then spans id.value else tracks pass (id.value - slots)
    else 0
  ⟨Screen.default.metrics, extent .preferred, extent .minimum⟩

theorem extent_probeMeasures {axis : Axis} {slots : Nat} {spans : Nat → Int}
    {tracks : Pass → Nat → Int} (pass : Pass) (id : Nat) :
    (probeMeasures axis slots spans tracks).extent pass ⟨id⟩ axis =
      if id < slots then spans id else tracks pass (id - slots) := by
  cases pass <;> simp [probeMeasures, Measures.extent]

theorem ordered_probeMeasures {axis : Axis} {slots : Nat} {spans : Nat → Int}
    {tracks : Pass → Nat → Int} (h : ∀ i, tracks .minimum i ≤ tracks .preferred i) :
    (probeMeasures axis slots spans tracks).Ordered := by
  intro id a
  simp only [probeMeasures]
  split
  · split
    · exact le_rfl
    · exact h _
  · exact le_rfl

namespace Grid

variable {axis : Axis} {count : Nat} {spans : List (Nat × Nat)} {groups : List TrackGroup}

/-- In usual tracks a component claims what it measures. -/
theorem claim_probeEntry (m : Measures) (pass : Pass) (id other start span : Nat) :
    (probe axis count spans groups).claim m pass axis (probeEntry axis id other start span) =
      max (m.extent pass ⟨id⟩ axis) 0 := by
  have hgoverning : (probe axis count spans groups).governing ⟨start, span, none, none⟩ axis =
      .defaultColumn := by
    by_cases hstart : start < count <;> simp [governing, hstart]
  simp only [claim, along_probeEntry, hgoverning]
  change max (m.extent pass ⟨id⟩ axis) (Length.zero.toPixels m.metrics axis) = _
  rw [toPixels_zero]

variable {extents : Nat → Int} {sizes : Pass → Nat → Int}

/-- The base sizes of a probe are what its single tracks are given. -/
theorem getD_scanBaseSizes_probe (h : SpansInside spans count) (pass : Pass)
    (hnonneg : ∀ i, 0 ≤ sizes pass i) (i : Nat) :
    ((probe axis count spans groups).scanBaseSizes
      (probeMeasures axis spans.length extents sizes) pass axis).getD i 0 =
        if i < count then sizes pass i else 0 := by
  split
  · next hi =>
    have htrack : ((probe axis count spans groups).tracks axis)[i]? = some .defaultColumn := by
      simp [hi]
    have hclaim : (probe axis count spans groups).claim
        (probeMeasures axis spans.length extents sizes) pass axis
        (probeEntry axis (spans.length + i) spans.length i 1) = sizes pass i := by
      rw [claim_probeEntry, extent_probeMeasures, if_neg (by omega), Nat.add_sub_cancel_left,
        max_eq_left (hnonneg i)]
    rw [getD_scanBaseSizes _ _ _ _ htrack]
    apply le_antisymm
    · rw [baseSize_le_iff]
      refine ⟨(toPixels_zero _ _).trans_le (hnonneg i), fun e he => ?_⟩
      obtain ⟨-, rfl⟩ := (mem_aloneIn_probe h).1 he
      exact hclaim.le
    · have halone : probeEntry axis (spans.length + i) spans.length i 1 ∈
          (probe axis count spans groups).aloneIn axis i := (mem_aloneIn_probe h).2 ⟨hi, rfl⟩
      exact hclaim.symm.trans_le (claim_le_baseSize _ _ _ _ _ halone)
  · next hi => simp [scanBaseSizes, List.getD_eq_getElem?_getD, hi]

theorem scanBaseSizes_probe_nonneg (h : SpansInside spans count) (pass : Pass)
    (hnonneg : ∀ i, 0 ≤ sizes pass i) (i : Nat) :
    0 ≤ ((probe axis count spans groups).scanBaseSizes
      (probeMeasures axis spans.length extents sizes) pass axis).getD i 0 := by
  rw [getD_scanBaseSizes_probe h pass hnonneg]
  split
  · exact hnonneg i
  · exact le_rfl

/-- The base sizes of tracks together are what these are given. -/
theorem sum_scanBaseSizes_probe (h : SpansInside spans count) (pass : Pass)
    (hnonneg : ∀ i, 0 ≤ sizes pass i) {s : Finset Nat} (hs : ∀ j ∈ s, j < count) :
    ∑ j ∈ s, ((probe axis count spans groups).scanBaseSizes
      (probeMeasures axis spans.length extents sizes) pass axis).getD j 0 = ∑ j ∈ s, sizes pass j :=
  sum_congr rfl fun j hj => by rw [getD_scanBaseSizes_probe h pass hnonneg, if_pos (hs j hj)]

/-! ## Its passes -/

theorem probeSpans_append (l l' : List (Nat × Nat)) (first : Nat) :
    probeSpans axis (l ++ l') first =
      probeSpans axis l first ++ probeSpans axis l' (first + l.length) := by
  simp [probeSpans, List.zipIdx_append]

theorem probeSpans_cons (p : Nat × Nat) (l : List (Nat × Nat)) (first : Nat) :
    probeSpans axis (p :: l) first =
      probeEntry axis first first p.1 p.2 :: probeSpans axis l (first + 1) := by
  simp [probeSpans, List.zipIdx_cons]

/-- Components that claim nothing always have it. -/
theorem claim_le_extent_of_idle {pass : Pass} {l : List (Nat × Nat)} {first : Nat}
    (hslots : first + l.length ≤ spans.length)
    (hidle : ∀ i, first ≤ i → i < first + l.length → extents i = 0) {start : List Int}
    (hnonneg : ∀ j, 0 ≤ start.getD j 0) {e : Entry} (he : e ∈ probeSpans axis l first) :
    (probe axis count spans groups).claim (probeMeasures axis spans.length extents sizes) pass axis
      e ≤ (e.placement.along axis).extent start := by
  obtain ⟨p, -, i, hlow, hhigh, rfl⟩ := exists_of_mem_probeSpans he
  rw [claim_probeEntry, extent_probeMeasures, if_pos (by omega), hidle i hlow hhigh, max_self,
    Slot.extent_eq_sum]
  exact sum_nonneg fun j _ => hnonneg j

theorem foldl_accommodate_of_idle {pass : Pass} {l : List (Nat × Nat)} {first : Nat}
    {start : List Int}
    (hfit : (probe axis count spans groups).RoomFitsInTurn
      (probeMeasures axis spans.length extents sizes) pass axis (probeSpans axis l first) start)
    (hslots : first + l.length ≤ spans.length)
    (hidle : ∀ i, first ≤ i → i < first + l.length → extents i = 0)
    (hnonneg : ∀ j, 0 ≤ start.getD j 0) :
    (probeSpans axis l first).foldl ((probe axis count spans groups).accommodate
      (probeMeasures axis spans.length extents sizes) pass axis) start = start :=
  foldl_accommodate_eq_self hfit fun _ he => claim_le_extent_of_idle hslots hidle hnonneg he

theorem extent_probeEntry (id other start span : Nat) (sizes : List Int) :
    ((probeEntry axis id other start span).placement.along axis).extent sizes =
      ∑ j ∈ Ico start (start + span), sizes.getD j 0 := by
  rw [along_probeEntry, Slot.extent_eq_sum]
  rfl

theorem claim_probeSpan {i : Nat} (hi : i < spans.length) (hnonneg : 0 ≤ extents i) (pass : Pass)
    (p : Nat × Nat) :
    (probe axis count spans groups).claim (probeMeasures axis spans.length extents sizes) pass axis
      (probeEntry axis i i p.1 p.2) = extents i := by
  rw [claim_probeEntry, extent_probeMeasures, if_pos hi, max_eq_left hnonneg]

/-- If 32 bits hold the base sizes and the claims together, they hold what a pass takes. -/
theorem passFits_probe (h : SpansInside spans count) {pass : Pass} (hextents : ∀ i, 0 ≤ extents i)
    (hsizes : ∀ i, 0 ≤ sizes pass i)
    (hsum : ∑ j ∈ range count, sizes pass j + ∑ i ∈ range spans.length, extents i ≤ 2147483647) :
    (probe axis count spans groups).PassFits (probeMeasures axis spans.length extents sizes) pass
      axis := by
  have hclaims : ((probeSpans axis spans 0).map fun e => max 0
      ((probe axis count spans groups).claim (probeMeasures axis spans.length extents sizes) pass
        axis e)).sum = ∑ i ∈ range spans.length, extents i := by
    have hmap : (probeSpans axis spans 0).map (fun e => max 0
        ((probe axis count spans groups).claim (probeMeasures axis spans.length extents sizes) pass
          axis e)) = (List.range spans.length).map extents := by
      refine List.ext_getElem (by simp [probeSpans]) fun i hi _ => ?_
      have hi : i < spans.length := by simpa [probeSpans] using hi
      simp [probeSpans, claim_probeSpan hi (hextents i), hextents i]
    rw [hmap]
    rfl
  refine (roomFitsInTurn_of_sum_le (length_scanBaseSizes _ _ _ _)
    (scanBaseSizes_probe_nonneg h pass hsizes) (fun e he => ?_) ?_).1
  · rw [spanning_probe h] at he
    obtain ⟨p, hp, i, -, -, rfl⟩ := exists_of_mem_probeSpans he
    rw [along_probeEntry, count_probe]
    exact (h p hp).2
  · rw [spanning_probe h, hclaims, total_eq_sum, length_scanBaseSizes, count_probe,
      sum_scanBaseSizes_probe h pass hsizes fun j hj => mem_range.1 hj]
    exact hsum

/-- All tracks of a probe are elastic. -/
theorem elastic_probe {id other start span : Nat} (hstop : start + span ≤ count) :
    ((probeEntry axis id other start span).placement.along axis).elastic
      ((probe axis count spans groups).tracks axis) = List.range' start span := by
  rw [along_probeEntry, tracks_probe]
  refine List.filter_eq_self.2 fun i hi => ?_
  have hlt : i < count := (List.mem_range'_1.1 hi).2.trans_le hstop
  have hsizing : Track.defaultColumn.sizing ≠ .fixed := by decide +kernel
  simp [hlt, hsizing]

theorem cells_probeEntry (id other start span : Nat) :
    (probeEntry axis id other start span).cells axis = Ico start (start + span) := by
  rw [Entry.cells, along_probeEntry]
  rfl

theorem cells_probeEntry_subset {id other start span : Nat} (hstop : start + span ≤ count) :
    (probeEntry axis id other start span).cells axis ⊆ range count := by
  rw [cells_probeEntry]
  exact fun i hi => mem_range.2 ((mem_Ico.1 hi).2.trans_le hstop)

theorem elastic_probe_ne_nil {id other start span : Nat} (hspan : 0 < span)
    (hstop : start + span ≤ count) :
    ((probeEntry axis id other start span).placement.along axis).elastic
      ((probe axis count spans groups).tracks axis) ≠ [] := by
  rw [elastic_probe hstop]
  simpa using hspan.ne'

end Grid

end GridLayout

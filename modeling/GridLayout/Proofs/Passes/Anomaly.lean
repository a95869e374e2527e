import GridLayout.Proofs.Passes.Probe

/-!
# Minimum sizes above the preferred ones

Where components of several tracks are not nested, there are measures by which the minimum size of
the grid is larger than its preferred size, though no component's is. Two probes show it.

* `Grid.total_lt_of_group`: a component covers a member of a group. By the preferred sizes the
  member alone is large enough; by the minimum ones the component enlarges all its tracks, and the
  group gives the member its size back.
* `Grid.total_lt_of_crossing`: a component shares a track with a later one, and has another that
  the later one lacks. By the preferred sizes the shared track is large enough for both; by the
  minimum ones the first component enlarges tracks that are of no use to the second.

All sizes of a probe are at most twice the number of its tracks, so 32 bits hold the totals if there
are fewer than `2 ^ 15` tracks (`Grid.TotalsFit`).
-/

namespace GridLayout

open Finset

/-- Sizes that are at most others except for one track are so for every track once the first group
of that track is applied, if another member of the group is large enough. -/
theorem equalizeAll_le_of_group {before after : List TrackGroup} {group : TrackGroup}
    {low high : List Int} {t c : Nat} {size : Int}
    (hfit : GroupsFit (before ++ group :: after) low.length) (hlen : high.length = low.length)
    (hbefore : ∀ other ∈ before, t ∉ other.indices) (ht : t ∈ group.indices)
    (hc : c ∈ group.indices) (hle : ∀ j, j ≠ t → low.getD j 0 ≤ high.getD j 0)
    (hlow : ∀ j, low.getD j 0 ≤ size) (hhigh : size ≤ high.getD c 0) (j : Nat) :
    (equalizeAll (before ++ group :: after) low).getD j 0 ≤
      (equalizeAll (before ++ group :: after) high).getD j 0 := by
  have hfitBefore : GroupsFit before low.length := fun other hother => hfit other (by simp [hother])
  have hfitGroup : group.maxIndex < low.length := hfit group (by simp)
  have hfitAfter : GroupsFit after low.length := fun other hother => hfit other (by simp [hother])
  have hgrownLow := grownAt_equalizeAll hfitBefore
  have hgrownHigh := grownAt_equalizeAll (hlen.symm ▸ hfitBefore)
  have hlenHigh := hgrownHigh.length_eq.trans hlen
  -- the groups before do not touch the track
  have hle₁ := equalizeAll_le_equalizeAll hfitBefore hlen
    (fun other hother i hi => ne_of_mem_of_not_mem hi (hbefore other hother)) hle
  have hlow₁ := equalizeAll_le hfitBefore hlow
  have hhigh₁ := hhigh.trans (hgrownHigh.le c)
  -- the group itself brings the track up to its other member
  have hfitLow : group.maxIndex < (equalizeAll before low).length := hgrownLow.length_eq ▸ hfitGroup
  have hfitHigh : group.maxIndex < (equalizeAll before high).length := hlenHigh ▸ hfitGroup
  have hle₂ : ∀ j, (group.equalize (equalizeAll before low)).getD j 0 ≤
      (group.equalize (equalizeAll before high)).getD j 0 := by
    intro j
    rw [TrackGroup.getD_equalize hfitLow, TrackGroup.getD_equalize hfitHigh]
    split
    · obtain ⟨⟨i, -, heq⟩, -⟩ := group.largest_spec (equalizeAll before low)
      have hlargest := (group.largest_spec (equalizeAll before high)).2 c hc
      exact (heq.trans_le (hlow₁ i)).trans (hhigh₁.trans hlargest)
    · next hj => exact hle₁ j (ne_of_mem_of_not_mem ht hj).symm
  rw [equalizeAll_append, equalizeAll_append]
  have hlen₂ := (TrackGroup.grownAt_equalize hfitLow).length_eq.trans hgrownLow.length_eq
  have hlen₃ := (TrackGroup.grownAt_equalize hfitHigh).length_eq.trans hlenHigh
  exact equalizeAll_le_equalizeAll (p := fun _ => True) (hlen₂.symm ▸ hfitAfter)
    (hlen₃.trans hlen₂.symm) (fun _ _ _ _ => trivial) (fun i _ => hle₂ i) j trivial

/-- The same sizes are smaller in total, if one of the others is too large for them. -/
theorem total_equalizeAll_lt {before after : List TrackGroup} {group : TrackGroup}
    {low high : List Int} {t c s : Nat} {size : Int}
    (hfit : GroupsFit (before ++ group :: after) low.length) (hlen : high.length = low.length)
    (hbefore : ∀ other ∈ before, t ∉ other.indices) (ht : t ∈ group.indices)
    (hc : c ∈ group.indices) (hle : ∀ j, j ≠ t → low.getD j 0 ≤ high.getD j 0)
    (hlow : ∀ j, low.getD j 0 ≤ size) (hhigh : size ≤ high.getD c 0) (hs : size < high.getD s 0) :
    total (equalizeAll (before ++ group :: after) low) <
      total (equalizeAll (before ++ group :: after) high) := by
  have hgrownLow := grownAt_equalizeAll hfit
  have hgrownHigh := grownAt_equalizeAll (hlen.symm ▸ hfit)
  have hlarge : size < (equalizeAll (before ++ group :: after) high).getD s 0 :=
    hs.trans_le (hgrownHigh.le s)
  refine total_lt_of_lt ?_ (equalizeAll_le_of_group hfit hlen hbefore ht hc hle hlow hhigh)
    ((equalizeAll_le hfit hlow s).trans_lt hlarge)
  rw [hgrownHigh.length_eq, hgrownLow.length_eq, hlen]

/-- A group has another member besides each one. -/
theorem TrackGroup.exists_mem_ne (group : TrackGroup) (t : Nat) : ∃ c ∈ group.indices, c ≠ t := by
  by_contra hnone
  have hall : ∀ c ∈ group.indices, c = t := by simpa using hnone
  have htwo := group.two_le
  have hsorted := group.ascending
  match hindices : group.indices with
  | [] | [_] => simp [hindices] at htwo
  | a :: b :: rest =>
    rw [hindices] at hsorted hall
    have hlt := (List.pairwise_cons.1 hsorted).1 b (by simp)
    have ha := hall a (by simp)
    have hb := hall b (by simp)
    omega

/-- A track in some group has a first one. -/
theorem exists_first_group {groups : List TrackGroup} {t : Nat}
    (ht : ∃ group ∈ groups, t ∈ group.indices) : ∃ before group after,
      groups = before ++ group :: after ∧ t ∈ group.indices ∧
        ∀ other ∈ before, t ∉ other.indices := by
  obtain ⟨group, hgroup⟩ : ∃ group, groups.find? (fun other => decide (t ∈ other.indices)) =
      some group := by
    rw [← Option.isSome_iff_exists, List.find?_isSome]
    simpa using ht
  obtain ⟨hfound, before, after, rfl, hbefore⟩ := List.find?_eq_some_iff_append.1 hgroup
  exact ⟨before, group, after, rfl, by simpa using hfound, by simpa using hbefore⟩

namespace Grid

variable {axis : Axis} {count : Nat} {spans : List (Nat × Nat)} {groups : List TrackGroup}
  {extents : Nat → Int} {sizes : Pass → Nat → Int}

/-! ## A component over a member of a group -/

/-- So much in all tracks of a slot and in another one, except, by the minimum sizes, in one of
them. -/
def groupSizes (p : Nat × Nat) (t c : Nat) (pass : Pass) (j : Nat) : Int :=
  if (j ∈ Ico p.1 (p.1 + p.2) ∨ j = c) ∧ ¬(pass = .minimum ∧ j = t) then p.2 else 0

theorem groupSizes_nonneg (p : Nat × Nat) (t c : Nat) (pass : Pass) (j : Nat) :
    0 ≤ groupSizes p t c pass j := by
  unfold groupSizes
  split <;> omega

theorem groupSizes_le (p : Nat × Nat) (t c : Nat) (pass : Pass) (j : Nat) :
    groupSizes p t c pass j ≤ p.2 := by
  unfold groupSizes
  split <;> omega

theorem groupSizes_minimum_of_ne (p : Nat × Nat) {t : Nat} (c : Nat) {j : Nat} (hj : j ≠ t) :
    groupSizes p t c .minimum j = groupSizes p t c .preferred j := by
  simp [groupSizes, hj]

theorem sum_groupSizes_preferred (p : Nat × Nat) (t c : Nat) :
    ∑ j ∈ Ico p.1 (p.1 + p.2), groupSizes p t c .preferred j = p.2 * p.2 := by
  have hcell : ∀ j ∈ Ico p.1 (p.1 + p.2), groupSizes p t c .preferred j = p.2 := by
    intro j hj
    simp [groupSizes, mem_Ico.1 hj]
  rw [sum_congr rfl hcell]
  simp

theorem sum_groupSizes_minimum {p : Nat × Nat} {t : Nat} (c : Nat)
    (ht : t ∈ Ico p.1 (p.1 + p.2)) :
    ∑ j ∈ Ico p.1 (p.1 + p.2), groupSizes p t c .minimum j = p.2 * p.2 - p.2 := by
  have hcell : ∀ j ∈ Ico p.1 (p.1 + p.2),
      groupSizes p t c .minimum j =
        groupSizes p t c .preferred j - if j = t then (p.2 : Int) else 0 := by
    intro j hj
    by_cases hjt : j = t
    · subst hjt
      simp [groupSizes, mem_Ico.1 hj]
    · simp [groupSizes, hjt]
  rw [sum_congr rfl hcell, sum_sub_distrib, sum_groupSizes_preferred, sum_ite_eq' _ t, if_pos ht]

/-- What the probe measures: one component claims so much that the preferred sizes are enough. -/
def groupMeasures (axis : Axis) (slots first : Nat) (p : Nat × Nat) (t c : Nat) : Measures :=
  probeMeasures axis slots (fun i => if i = first then p.2 * p.2 else 0) (groupSizes p t c)

/-- Products of the numbers of tracks of a probe with fewer than `2 ^ 15` of them. -/
theorem mul_le_of_lt {m n : Nat} (hm : m < 2 ^ 15) (hn : n < 2 ^ 15) :
    (m : Int) * n ≤ 1073676289 := by
  have hmul := Nat.mul_le_mul (Nat.le_of_lt_succ hm) (Nat.le_of_lt_succ hn)
  exact_mod_cast hmul

/-- 32 bits hold the totals of a probe with fewer than `2 ^ 15` tracks, if no size is larger than
twice that number. -/
theorem totalsFit_probe (hgroups : GroupsFit groups count)
    (hcount : count < 2 ^ 15) {width : Nat} (hwidth : width ≤ count) {m : Measures}
    (hpass : ∀ pass, (probe axis count spans groups).PassFits m pass axis)
    (hbase : ∀ pass j, 0 ≤ ((probe axis count spans groups).scanBaseSizes m pass axis).getD j 0)
    (hle : ∀ pass i, ((probe axis count spans groups).scanCellSizes m pass axis).getD i 0 ≤
      (width : Int) + width) : (probe axis count spans groups).TotalsFit m axis := by
  refine totalsFit_of_le (groupsInside_probe hgroups axis) hpass hbase _ hle ?_
  have hmul := mul_le_of_lt hcount (hwidth.trans_lt hcount)
  rw [count_probe, mul_add]
  omega

section

variable {l₁ l₂ : List (Nat × Nat)} {p : Nat × Nat} {t : Nat}

theorem spanning_probe_group (h : SpansInside (l₁ ++ p :: l₂) count) :
    (probe axis count (l₁ ++ p :: l₂) groups).spanning axis = probeSpans axis l₁ 0 ++
      probeEntry axis l₁.length l₁.length p.1 p.2 :: probeSpans axis l₂ (l₁.length + 1) := by
  rw [spanning_probe h, probeSpans_append, probeSpans_cons, Nat.zero_add]

theorem claim_groupMeasures (t c : Nat) (pass : Pass) :
    (probe axis count (l₁ ++ p :: l₂) groups).claim
      (groupMeasures axis (l₁ ++ p :: l₂).length l₁.length p t c) pass axis
      (probeEntry axis l₁.length l₁.length p.1 p.2) = p.2 * p.2 := by
  refine (claim_probeSpan (by simp) ?_ pass p).trans (if_pos rfl)
  rw [if_pos rfl]
  exact Int.mul_nonneg (Int.natCast_nonneg _) (Int.natCast_nonneg _)

theorem extent_groupMeasures (h : SpansInside (l₁ ++ p :: l₂) count) (t c : Nat) (pass : Pass) :
    ((probeEntry axis l₁.length l₁.length p.1 p.2).placement.along axis).extent
      ((probe axis count (l₁ ++ p :: l₂) groups).scanBaseSizes
        (groupMeasures axis (l₁ ++ p :: l₂).length l₁.length p t c) pass axis) =
      ∑ j ∈ Ico p.1 (p.1 + p.2), groupSizes p t c pass j := by
  rw [extent_probeEntry]
  exact sum_scanBaseSizes_probe h pass (groupSizes_nonneg p t c pass)
    fun j hj => (mem_Ico.1 hj).2.trans_le (h p (by simp)).2

/-- 32 bits hold what the passes take. -/
theorem passFits_groupMeasures (axis : Axis) (groups : List TrackGroup)
    (h : SpansInside (l₁ ++ p :: l₂) count) (hcount : count < 2 ^ 15) (t c : Nat) (pass : Pass) :
    (probe axis count (l₁ ++ p :: l₂) groups).PassFits
      (groupMeasures axis (l₁ ++ p :: l₂).length l₁.length p t c) pass axis := by
  obtain ⟨-, hstop⟩ := h p (by simp)
  have htracks : ∑ j ∈ range count, groupSizes p t c pass j ≤ count * p.2 := by
    have hle := sum_le_card_nsmul (range count) (groupSizes p t c pass) p.2
      fun j _ => groupSizes_le p t c pass j
    rwa [card_range, nsmul_eq_mul] at hle
  have hclaims : ∑ i ∈ range (l₁ ++ p :: l₂).length,
      (if i = l₁.length then (p.2 * p.2 : Int) else 0) = p.2 * p.2 := by
    rw [sum_ite_eq', if_pos (by simp)]
  have hmul := mul_le_of_lt hcount (show p.2 < 2 ^ 15 by omega)
  have hsquare := mul_le_of_lt (show p.2 < 2 ^ 15 by omega) (show p.2 < 2 ^ 15 by omega)
  refine passFits_probe h (fun i => ?_) (groupSizes_nonneg p t c pass) (by omega)
  split
  · exact Int.mul_nonneg (Int.natCast_nonneg _) (Int.natCast_nonneg _)
  · exact le_rfl

/-- By the preferred sizes no track is enlarged. -/
theorem scanCellSizes_group_preferred (axis : Axis) (groups : List TrackGroup)
    (h : SpansInside (l₁ ++ p :: l₂) count) (hcount : count < 2 ^ 15) (t c : Nat) :
    let g := probe axis count (l₁ ++ p :: l₂) groups
    let m := groupMeasures axis (l₁ ++ p :: l₂).length l₁.length p t c
    g.scanCellSizes m .preferred axis = g.scanBaseSizes m .preferred axis := by
  intro g m
  have hnonneg : ∀ j, 0 ≤ (g.scanBaseSizes m .preferred axis).getD j 0 :=
    scanBaseSizes_probe_nonneg h .preferred (groupSizes_nonneg p t c .preferred)
  refine foldl_accommodate_eq_self (passFits_groupMeasures axis groups h hcount t c .preferred)
    fun e he => ?_
  simp only [g, spanning_probe_group h, List.mem_append, List.mem_cons] at he
  rcases he with he | rfl | he
  · exact claim_le_extent_of_idle (by simp) (fun i _ hi => if_neg (by omega)) hnonneg he
  · rw [claim_groupMeasures, extent_groupMeasures h, sum_groupSizes_preferred]
  · exact claim_le_extent_of_idle (by simp; omega) (fun i hi _ => if_neg (by omega)) hnonneg he

/-- By the minimum sizes room is made for the component alone, which lacks what one of its tracks
has by the preferred ones. -/
theorem scanCellSizes_group_minimum (axis : Axis) (groups : List TrackGroup)
    (h : SpansInside (l₁ ++ p :: l₂) count) (hcount : count < 2 ^ 15)
    (ht : t ∈ Ico p.1 (p.1 + p.2)) (c : Nat) :
    let g := probe axis count (l₁ ++ p :: l₂) groups
    let m := groupMeasures axis (l₁ ++ p :: l₂).length l₁.length p t c
    let e := probeEntry axis l₁.length l₁.length p.1 p.2
    let start := g.scanBaseSizes m .minimum axis
    g.RoomFits m .minimum axis start e ∧
      g.claim m .minimum axis e - (e.placement.along axis).extent start = p.2 ∧
      g.scanCellSizes m .minimum axis = g.accommodate m .minimum axis start e := by
  intro g m e start
  have hnonneg : ∀ j, 0 ≤ start.getD j 0 :=
    scanBaseSizes_probe_nonneg h .minimum (groupSizes_nonneg p t c .minimum)
  have hfits : g.RoomFitsInTurn m .minimum axis (g.spanning axis) start :=
    passFits_groupMeasures axis groups h hcount t c .minimum
  rw [spanning_probe_group h] at hfits
  -- the components before find what they claim, and so do those after
  obtain ⟨hfirst, hrest⟩ := roomFitsInTurn_append.1 hfits
  have hbefore : (probeSpans axis l₁ 0).foldl (g.accommodate m .minimum axis) start = start :=
    foldl_accommodate_of_idle hfirst (by simp) (fun i _ hi => if_neg (by omega)) hnonneg
  rw [hbefore] at hrest
  obtain ⟨hfit, hafter⟩ := hrest
  refine ⟨hfit, ?_, ?_⟩
  · rw [claim_groupMeasures, extent_groupMeasures h, sum_groupSizes_minimum c ht]
    omega
  · unfold scanCellSizes
    rw [spanning_probe_group h, List.foldl_append, hbefore, List.foldl_cons]
    exact foldl_accommodate_of_idle hafter (by simp; omega) (fun i hi _ => if_neg (by omega))
      fun j => (hnonneg j).trans ((grownAt_accommodate hfit).le j)

/-- By the minimum sizes all tracks of the component are enlarged, but no track by more than what
one of them lacked. -/
theorem getD_scanCellSizes_group_minimum (axis : Axis) (groups : List TrackGroup)
    (h : SpansInside (l₁ ++ p :: l₂) count) (hcount : count < 2 ^ 15)
    (ht : t ∈ Ico p.1 (p.1 + p.2)) (c : Nat) :
    let g := probe axis count (l₁ ++ p :: l₂) groups
    let m := groupMeasures axis (l₁ ++ p :: l₂).length l₁.length p t c
    (∀ s ∈ Ico p.1 (p.1 + p.2), (g.scanBaseSizes m .minimum axis).getD s 0 <
        (g.scanCellSizes m .minimum axis).getD s 0) ∧
      ∀ i, (g.scanCellSizes m .minimum axis).getD i 0 ≤
        (g.scanBaseSizes m .minimum axis).getD i 0 + p.2 := by
  intro g m
  obtain ⟨hfit, hmissing, hcells⟩ := scanCellSizes_group_minimum axis groups h hcount ht c
  have helastic : ((probeEntry axis l₁.length l₁.length p.1 p.2).placement.along axis).elastic
      (g.tracks axis) = List.range' p.1 p.2 := elastic_probe (h p (by simp)).2
  rw [hcells]
  refine ⟨fun s hs => lt_accommodate hfit (length_scanBaseSizes _ _ _ _) ?_ ?_, fun i => ?_⟩
  · rw [helastic, hmissing, List.length_range']
  · rw [helastic]
    exact List.mem_range'_1.2 (mem_Ico.1 hs)
  · refine (getD_accommodate_le hfit (length_scanBaseSizes _ _ _ _) i).trans_eq ?_
    rw [hmissing, max_eq_right (Int.natCast_nonneg _)]

end

/-- A component over a member of a group lets the minimum size exceed the preferred one. -/
theorem total_lt_of_group (hspans : SpansInside spans count) (hgroups : GroupsFit groups count)
    (hbound : count < 2 ^ 15) {p : Nat × Nat} (hp : p ∈ spans) {t : Nat}
    (hcover : t ∈ Ico p.1 (p.1 + p.2)) (ht : ∃ group ∈ groups, t ∈ group.indices) :
    ∃ m : Measures, m.Ordered ∧ (probe axis count spans groups).TotalsFit m axis ∧
      total ((probe axis count spans groups).equalizedSizes m .preferred axis) <
        total ((probe axis count spans groups).equalizedSizes m .minimum axis) := by
  obtain ⟨htwo, hstop⟩ := hspans p hp
  obtain ⟨l₁, l₂, rfl⟩ := List.append_of_mem hp
  -- the first group of the track, and another member of it
  obtain ⟨before, group, after, rfl, hmem, hbefore⟩ := exists_first_group ht
  obtain ⟨c, hc, hct⟩ := group.exists_mem_ne t
  have hcount : c < count := (group.le_maxIndex hc).trans_lt (hgroups group (by simp))
  -- another track of the component
  obtain ⟨s, hs, hst⟩ : ∃ s ∈ Ico p.1 (p.1 + p.2), s ≠ t := by
    by_cases hfirst : t = p.1
    · exact ⟨p.1 + 1, mem_Ico.2 (by omega), by omega⟩
    · exact ⟨p.1, mem_Ico.2 (by omega), fun heq => hfirst heq.symm⟩
  refine ⟨groupMeasures axis (l₁ ++ p :: l₂).length l₁.length p t c,
    ordered_probeMeasures fun i => ?_, ?_⟩
  · by_cases hi : i = t
    · simpa [groupSizes, hi] using groupSizes_nonneg p t c .preferred t
    · exact (groupSizes_minimum_of_ne p c hi).le
  have hpass (pass : Pass) :=
    passFits_groupMeasures axis (before ++ group :: after) hspans hbound t c pass
  have hpreferred :=
    scanCellSizes_group_preferred axis (before ++ group :: after) hspans hbound t c
  obtain ⟨hminimum, hhighest⟩ :=
    getD_scanCellSizes_group_minimum axis (before ++ group :: after) hspans hbound hcover c
  set g := probe axis count (l₁ ++ p :: l₂) (before ++ group :: after)
  set m := groupMeasures axis (l₁ ++ p :: l₂).length l₁.length p t c
  have hbase (pass : Pass) (j : Nat) : (g.scanBaseSizes m pass axis).getD j 0 =
      if j < count then groupSizes p t c pass j else 0 :=
    getD_scanBaseSizes_probe hspans pass (groupSizes_nonneg p t c pass) j
  have hbaseLe (pass : Pass) (j : Nat) : (g.scanBaseSizes m pass axis).getD j 0 ≤ p.2 := by
    rw [hbase]
    split
    · exact groupSizes_le p t c _ j
    · exact Int.natCast_nonneg _
  have hlow : ∀ j, (g.scanCellSizes m .preferred axis).getD j 0 ≤ p.2 := fun j =>
    hpreferred ▸ hbaseLe .preferred j
  refine ⟨totalsFit_probe hgroups hbound (show p.2 ≤ count by omega) hpass
    (fun pass => scanBaseSizes_probe_nonneg hspans pass (groupSizes_nonneg p t c pass))
    fun pass i => ?_, ?_⟩
  · cases pass with
    | preferred => exact (hlow i).trans (by omega)
    | minimum => exact (hhighest i).trans (Int.add_le_add_right (hbaseLe .minimum i) _)
  have hgrown := (grownAt_scanCellSizes (hpass .minimum)).le
  have hlen (pass : Pass) : (g.scanCellSizes m pass axis).length = count :=
    (g.length_scanCellSizes m pass axis).trans count_probe
  have hle : ∀ j, j ≠ t → (g.scanCellSizes m .preferred axis).getD j 0 ≤
      (g.scanCellSizes m .minimum axis).getD j 0 := by
    intro j hj
    refine le_trans ?_ (hgrown j)
    rw [hpreferred, hbase, hbase, groupSizes_minimum_of_ne p c hj]
  have hhigh : (p.2 : Int) ≤ (g.scanCellSizes m .minimum axis).getD c 0 := by
    refine le_trans ?_ (hgrown c)
    rw [hbase, if_pos hcount]
    simp [groupSizes, hct]
  have hstrict : (p.2 : Int) < (g.scanCellSizes m .minimum axis).getD s 0 := by
    refine lt_of_eq_of_lt ?_ (hminimum s hs)
    rw [hbase, if_pos ((mem_Ico.1 hs).2.trans_le hstop)]
    simp [groupSizes, hst, mem_Ico.1 hs]
  have hfit : GroupsFit (before ++ group :: after) (g.scanCellSizes m .preferred axis).length :=
    (hlen .preferred).symm ▸ hgroups
  rw [equalizedSizes, equalizedSizes, groups_probe]
  exact total_equalizeAll_lt hfit ((hlen .minimum).trans (hlen .preferred).symm)
    hbefore hmem hc hle hlow hhigh hstrict

/-! ## A component that crosses a later one -/

section

variable {g : Grid} {m : Measures} {pass : Pass} {start : List Int} {e : Entry}

/-- From nothing, a component that claims a pixel for each of its tracks gets them, one or more in
every track. -/
theorem accommodate_of_zero (hfit : g.RoomFits m pass axis start e)
    (hlen : start.length = g.count axis) (hzero : ∀ j, start.getD j 0 = 0)
    (hcells : e.cells axis ⊆ range (g.count axis))
    (helastic : (e.placement.along axis).elastic (g.tracks axis) ≠ [])
    (hclaim : g.claim m pass axis e =
      ((e.placement.along axis).elastic (g.tracks axis)).length) :
    ∑ j ∈ range (g.count axis), (g.accommodate m pass axis start e).getD j 0 =
        g.claim m pass axis e ∧
      ∀ j ∈ (e.placement.along axis).elastic (g.tracks axis),
        0 < (g.accommodate m pass axis start e).getD j 0 := by
  have hextent : (e.placement.along axis).extent start = 0 := by
    rw [Slot.extent_eq_sum]
    exact sum_eq_zero fun j _ => hzero j
  constructor
  · rw [sum_accommodate hfit hlen helastic hcells, hextent, sum_eq_zero fun j _ => hzero j]
    omega
  · intro j hj
    exact (hzero j).symm.trans_lt (lt_accommodate hfit hlen (by omega) hj)

/-- A component that lacks a track in use needs more space than it claims. -/
theorem lt_sum_accommodate (hfit : g.RoomFits m pass axis start e)
    (hlen : start.length = g.count axis) (hnonneg : ∀ j, 0 ≤ start.getD j 0)
    (hcells : e.cells axis ⊆ range (g.count axis))
    (helastic : (e.placement.along axis).elastic (g.tracks axis) ≠ []) {u : Nat}
    (hu : u ∈ range (g.count axis)) (hucells : u ∉ e.cells axis) (hused : 0 < start.getD u 0)
    (hclaim : g.claim m pass axis e = ∑ j ∈ range (g.count axis), start.getD j 0) :
    g.claim m pass axis e <
      ∑ j ∈ range (g.count axis), (g.accommodate m pass axis start e).getD j 0 := by
  have hextent : (e.placement.along axis).extent start < g.claim m pass axis e := by
    have hle := sum_le_sum_of_subset_of_nonneg (insert_subset hu hcells) fun j _ _ => hnonneg j
    rw [sum_insert hucells, ← hclaim] at hle
    rw [Slot.extent_eq_sum]
    unfold Entry.cells at hle
    omega
  rw [sum_accommodate hfit hlen helastic hcells, ← hclaim]
  omega

end

/-- So much in one track by the preferred sizes, and nothing by the minimum ones. -/
def crossingSizes (width t : Nat) (pass : Pass) (j : Nat) : Int :=
  if pass = .preferred ∧ j = t then width else 0

theorem crossingSizes_nonneg (width t : Nat) (pass : Pass) (j : Nat) :
    0 ≤ crossingSizes width t pass j := by
  unfold crossingSizes
  split <;> omega

theorem crossingSizes_minimum (width t j : Nat) : crossingSizes width t .minimum j = 0 := by
  simp [crossingSizes]

theorem sum_crossingSizes_preferred (width : Nat) {t : Nat} {s : Finset Nat} (ht : t ∈ s) :
    ∑ j ∈ s, crossingSizes width t .preferred j = width := by
  simp [crossingSizes, ht]

/-- What the probe measures: two components claim what their shared track has. -/
def crossingMeasures (axis : Axis) (slots first second width t : Nat) : Measures :=
  probeMeasures axis slots (fun i => if i = first ∨ i = second then width else 0)
    (crossingSizes width t)

section

variable {l₁ l₂ l₃ : List (Nat × Nat)} {p q : Nat × Nat} {t u : Nat}

theorem spanning_probe_crossing (h : SpansInside (l₁ ++ p :: (l₂ ++ q :: l₃)) count) :
    (probe axis count (l₁ ++ p :: (l₂ ++ q :: l₃)) groups).spanning axis = probeSpans axis l₁ 0 ++
      probeEntry axis l₁.length l₁.length p.1 p.2 :: (probeSpans axis l₂ (l₁.length + 1) ++
        probeEntry axis (l₁.length + 1 + l₂.length) (l₁.length + 1 + l₂.length) q.1 q.2 ::
          probeSpans axis l₃ (l₁.length + 1 + l₂.length + 1)) := by
  rw [spanning_probe h, probeSpans_append, probeSpans_cons, probeSpans_append, probeSpans_cons,
    Nat.zero_add]

/-- 32 bits hold what the passes take. -/
theorem passFits_crossingMeasures (axis : Axis) (groups : List TrackGroup)
    (h : SpansInside (l₁ ++ p :: (l₂ ++ q :: l₃)) count) (hcount : count < 2 ^ 15) (t : Nat)
    (pass : Pass) :
    (probe axis count (l₁ ++ p :: (l₂ ++ q :: l₃)) groups).PassFits
      (crossingMeasures axis (l₁ ++ p :: (l₂ ++ q :: l₃)).length l₁.length
        (l₁.length + 1 + l₂.length) p.2 t) pass axis := by
  obtain ⟨-, hstop⟩ := h p (by simp)
  have htracks : ∑ j ∈ range count, crossingSizes p.2 t pass j ≤ p.2 := by
    refine (sum_le_sum fun j _ => ?_ :
      _ ≤ ∑ j ∈ range count, if j = t then (p.2 : Int) else 0).trans ?_
    · unfold crossingSizes
      split <;> split <;> omega
    · rw [sum_ite_eq']
      split <;> omega
  have hclaims : ∑ i ∈ range (l₁ ++ p :: (l₂ ++ q :: l₃)).length,
      (if i = l₁.length ∨ i = l₁.length + 1 + l₂.length then (p.2 : Int) else 0) ≤ p.2 + p.2 := by
    refine (sum_le_sum fun i _ => ?_ : _ ≤ ∑ i ∈ range (l₁ ++ p :: (l₂ ++ q :: l₃)).length,
      ((if i = l₁.length then (p.2 : Int) else 0) +
        if i = l₁.length + 1 + l₂.length then (p.2 : Int) else 0)).trans ?_
    · split <;> split <;> split <;> omega
    · rw [sum_add_distrib, sum_ite_eq', sum_ite_eq']
      split <;> split <;> omega
  refine passFits_probe h (fun i => ?_) (crossingSizes_nonneg p.2 t pass) (by omega)
  split <;> omega

/-- By the preferred sizes no track is enlarged. -/
theorem scanCellSizes_crossing_preferred (axis : Axis) (groups : List TrackGroup)
    (h : SpansInside (l₁ ++ p :: (l₂ ++ q :: l₃)) count) (hcount : count < 2 ^ 15)
    (htp : t ∈ Ico p.1 (p.1 + p.2)) (htq : t ∈ Ico q.1 (q.1 + q.2)) :
    let g := probe axis count (l₁ ++ p :: (l₂ ++ q :: l₃)) groups
    let m := crossingMeasures axis (l₁ ++ p :: (l₂ ++ q :: l₃)).length l₁.length
      (l₁.length + 1 + l₂.length) p.2 t
    g.scanCellSizes m .preferred axis = g.scanBaseSizes m .preferred axis := by
  intro g m
  have hnonneg : ∀ j, 0 ≤ (g.scanBaseSizes m .preferred axis).getD j 0 :=
    scanBaseSizes_probe_nonneg h _ (crossingSizes_nonneg p.2 t _)
  have hextent {i : Nat} {r : Nat × Nat} (hr : r ∈ l₁ ++ p :: (l₂ ++ q :: l₃))
      (ht : t ∈ Ico r.1 (r.1 + r.2)) :
      ((probeEntry axis i i r.1 r.2).placement.along axis).extent
        (g.scanBaseSizes m .preferred axis) = p.2 := by
    rw [extent_probeEntry]
    refine (sum_scanBaseSizes_probe h _ (crossingSizes_nonneg p.2 t _) fun j hj => ?_).trans
      (sum_crossingSizes_preferred _ ht)
    exact (mem_Ico.1 hj).2.trans_le (h r hr).2
  unfold scanCellSizes
  refine foldl_accommodate_eq_self (passFits_crossingMeasures axis groups h hcount t .preferred)
    fun e he => ?_
  simp only [g, spanning_probe_crossing h, List.mem_append, List.mem_cons] at he
  rcases he with he | rfl | he | rfl | he
  · exact claim_le_extent_of_idle (by simp) (fun i _ hi => if_neg (by omega)) hnonneg he
  · rw [hextent (by simp) htp]
    exact ((claim_probeSpan (by simp) (by simp) _ p).trans (if_pos (.inl rfl))).le
  · exact claim_le_extent_of_idle (by simp; omega) (fun i _ hi => if_neg (by omega)) hnonneg he
  · rw [hextent (by simp) htq]
    exact ((claim_probeSpan (by simp; omega) (by simp) _ q).trans (if_pos (.inr rfl))).le
  · exact claim_le_extent_of_idle (by simp; omega) (fun i hi _ => if_neg (by omega)) hnonneg he

/-- By the minimum sizes room is made for both components one after another, from nothing. -/
theorem scanCellSizes_crossing_minimum (axis : Axis) (groups : List TrackGroup)
    (h : SpansInside (l₁ ++ p :: (l₂ ++ q :: l₃)) count) (hcount : count < 2 ^ 15) (t : Nat) :
    let g := probe axis count (l₁ ++ p :: (l₂ ++ q :: l₃)) groups
    let m := crossingMeasures axis (l₁ ++ p :: (l₂ ++ q :: l₃)).length l₁.length
      (l₁.length + 1 + l₂.length) p.2 t
    let e := probeEntry axis l₁.length l₁.length p.1 p.2
    let e' := probeEntry axis (l₁.length + 1 + l₂.length) (l₁.length + 1 + l₂.length) q.1 q.2
    let start := g.scanBaseSizes m .minimum axis
    let first := g.accommodate m .minimum axis start e
    (∀ j, start.getD j 0 = 0) ∧ g.RoomFits m .minimum axis start e ∧
      g.RoomFits m .minimum axis first e' ∧
      g.scanCellSizes m .minimum axis = g.accommodate m .minimum axis first e' := by
  intro g m e e' start first
  have hzero : ∀ j, start.getD j 0 = 0 := by
    intro j
    refine (getD_scanBaseSizes_probe h _ (crossingSizes_nonneg p.2 t _) j).trans ?_
    rw [crossingSizes_minimum, ite_self]
  have hfits : g.RoomFitsInTurn m .minimum axis (g.spanning axis) start :=
    passFits_crossingMeasures axis groups h hcount t .minimum
  rw [spanning_probe_crossing h] at hfits
  -- the components before the first find what they claim
  obtain ⟨hidle, hfirst, hrest⟩ := roomFitsInTurn_append.1 hfits
  have hbefore : (probeSpans axis l₁ 0).foldl (g.accommodate m .minimum axis) start = start :=
    foldl_accommodate_of_idle hidle (by simp) (fun i _ hi => if_neg (by omega)) fun j =>
      (hzero j).ge
  rw [hbefore] at hfirst hrest
  have hnonneg : ∀ j, 0 ≤ first.getD j 0 := fun j =>
    (hzero j).symm.trans_le ((grownAt_accommodate hfirst).le j)
  -- and so do those between both, and those after
  obtain ⟨hidle', hsecond, hafter⟩ := roomFitsInTurn_append.1 hrest
  have hbetween : (probeSpans axis l₂ (l₁.length + 1)).foldl (g.accommodate m .minimum axis)
      first = first :=
    foldl_accommodate_of_idle hidle' (by simp; omega) (fun i _ hi => if_neg (by omega)) hnonneg
  rw [hbetween] at hsecond hafter
  refine ⟨hzero, hfirst, hsecond, ?_⟩
  unfold scanCellSizes
  rw [spanning_probe_crossing h, List.foldl_append, hbefore, List.foldl_cons, List.foldl_append,
    hbetween, List.foldl_cons]
  exact foldl_accommodate_of_idle hafter (by simp; omega) (fun i hi _ => if_neg (by omega))
    fun j => (hnonneg j).trans ((grownAt_accommodate hsecond).le j)

/-- By the minimum sizes more is added than either component claims, but nowhere more than both. -/
theorem lt_total_crossing_minimum (axis : Axis) (groups : List TrackGroup) (t : Nat)
    (h : SpansInside (l₁ ++ p :: (l₂ ++ q :: l₃)) count) (hbound : count < 2 ^ 15)
    (hup : u ∈ Ico p.1 (p.1 + p.2)) (huq : u ∉ Ico q.1 (q.1 + q.2)) :
    let g := probe axis count (l₁ ++ p :: (l₂ ++ q :: l₃)) groups
    let m := crossingMeasures axis (l₁ ++ p :: (l₂ ++ q :: l₃)).length l₁.length
      (l₁.length + 1 + l₂.length) p.2 t
    p.2 < total (g.scanCellSizes m .minimum axis) ∧
      ∀ i, (g.scanCellSizes m .minimum axis).getD i 0 ≤ p.2 + p.2 := by
  intro g m
  obtain ⟨-, hstop⟩ := h p (by simp)
  obtain ⟨htwo', hstop'⟩ := h q (by simp)
  obtain ⟨hzero, hfirst, hsecond, hcellSizes⟩ :=
    scanCellSizes_crossing_minimum axis groups h hbound t
  set e := probeEntry axis l₁.length l₁.length p.1 p.2
  set e' := probeEntry axis (l₁.length + 1 + l₂.length) (l₁.length + 1 + l₂.length) q.1 q.2
  have hcount : g.count axis = count := count_probe
  have hbaseLen := g.length_scanBaseSizes m .minimum axis
  have hclaim : g.claim m .minimum axis e = p.2 :=
    (claim_probeSpan (by simp) (by simp) _ p).trans (if_pos (.inl rfl))
  have hclaim' : g.claim m .minimum axis e' = p.2 :=
    (claim_probeSpan (by simp; omega) (by simp) _ q).trans (if_pos (.inr rfl))
  have hcells : e.cells axis ⊆ range (g.count axis) := hcount ▸ cells_probeEntry_subset hstop
  have hcells' : e'.cells axis ⊆ range (g.count axis) := hcount ▸ cells_probeEntry_subset hstop'
  have helastic : (e.placement.along axis).elastic (g.tracks axis) = List.range' p.1 p.2 :=
    elastic_probe hstop
  have hue : u ∈ (e.placement.along axis).elastic (g.tracks axis) :=
    helastic ▸ List.mem_range'_1.2 (mem_Ico.1 hup)
  have hue' : u ∉ e'.cells axis := by rwa [cells_probeEntry]
  have hucount : u ∈ range (g.count axis) := hcells ((cells_probeEntry ..).symm ▸ hup)
  -- the first component enlarges all its tracks, `u` among them
  obtain ⟨hsum, hpos⟩ := accommodate_of_zero hfirst hbaseLen hzero hcells
    (List.ne_nil_of_mem hue) (by rw [helastic, hclaim, List.length_range'])
  have hfirstLe := getD_accommodate_le hfirst hbaseLen
  have hgrown := grownAt_accommodate hfirst
  have hfirstLen := hgrown.length_eq.trans hbaseLen
  have hnonneg := fun j => (hzero j).symm.trans_le (hgrown.le j)
  -- so the second one lacks what was added to `u`
  have hmore := lt_sum_accommodate hsecond hfirstLen hnonneg hcells'
    (elastic_probe_ne_nil (by omega) hstop') hucount hue' (hpos u hue)
    (by rw [hclaim', hsum, hclaim])
  have hsecondLe := getD_accommodate_le hsecond hfirstLen
  rw [hcellSizes]
  constructor
  · rw [total_eq_sum, (grownAt_accommodate hsecond).length_eq.trans hfirstLen, ← hclaim']
    exact hmore
  · intro i
    have hextent := (e.placement.along axis).extent_eq_sum (g.scanBaseSizes m .minimum axis)
    rw [sum_eq_zero fun j _ => hzero j] at hextent
    have hextent' := (e'.placement.along axis).extent_nonneg hnonneg
    have hcell := hfirstLe i
    have hcell' := hsecondLe i
    rw [hzero, hclaim, hextent] at hcell
    rw [hclaim'] at hcell'
    omega

/-- A component that shares a track with a later one, and has another that the later one lacks, lets
the minimum size exceed the preferred one, if no group is in its way. -/
theorem total_lt_of_crossing (h : SpansInside (l₁ ++ p :: (l₂ ++ q :: l₃)) count)
    (hgroups : GroupsFit groups count) (hbound : count < 2 ^ 15)
    (hapart : ∀ group ∈ groups, ∀ i ∈ group.indices, i ∉ Ico p.1 (p.1 + p.2))
    (hcrossing : ¬(Disjoint (Ico p.1 (p.1 + p.2)) (Ico q.1 (q.1 + q.2)) ∨
      Ico p.1 (p.1 + p.2) ⊆ Ico q.1 (q.1 + q.2))) :
    ∃ m : Measures, m.Ordered ∧
      (probe axis count (l₁ ++ p :: (l₂ ++ q :: l₃)) groups).TotalsFit m axis ∧
      total ((probe axis count (l₁ ++ p :: (l₂ ++ q :: l₃)) groups).equalizedSizes m
          .preferred axis) <
        total ((probe axis count (l₁ ++ p :: (l₂ ++ q :: l₃)) groups).equalizedSizes m
          .minimum axis) := by
  rw [not_or, not_disjoint_iff, not_subset] at hcrossing
  obtain ⟨⟨t, htp, htq⟩, u, hup, huq⟩ := hcrossing
  refine ⟨crossingMeasures axis (l₁ ++ p :: (l₂ ++ q :: l₃)).length l₁.length
    (l₁.length + 1 + l₂.length) p.2 t, ordered_probeMeasures fun i => ?_, ?_⟩
  · rw [crossingSizes_minimum]
    exact crossingSizes_nonneg p.2 t _ i
  have hpass (pass : Pass) := passFits_crossingMeasures axis groups h hbound t pass
  have hpreferred := scanCellSizes_crossing_preferred axis groups h hbound htp htq
  obtain ⟨hminimum, hhighest⟩ := lt_total_crossing_minimum axis groups t h hbound hup huq
  set g := probe axis count (l₁ ++ p :: (l₂ ++ q :: l₃)) groups
  set m := crossingMeasures axis (l₁ ++ p :: (l₂ ++ q :: l₃)).length l₁.length
    (l₁.length + 1 + l₂.length) p.2 t
  have hcells : GroupsFit groups (g.scanCellSizes m .preferred axis).length := by
    rw [length_scanCellSizes, count_probe]
    exact hgroups
  have hbase (j : Nat) : (g.scanBaseSizes m .preferred axis).getD j 0 =
      if j < count then crossingSizes p.2 t .preferred j else 0 :=
    getD_scanBaseSizes_probe h _ (crossingSizes_nonneg p.2 t _) j
  -- the members of groups have no size, so the groups change nothing
  have hmember : ∀ group ∈ groups, ∀ i ∈ group.indices,
      (g.scanCellSizes m .preferred axis).getD i 0 = 0 := by
    intro group hgroup i hi
    have hne : i ≠ t := fun heq => hapart group hgroup i hi (heq ▸ htp)
    have hcell : g.scanCellSizes m .preferred axis = g.scanBaseSizes m .preferred axis := hpreferred
    rw [hcell, hbase]
    simp [crossingSizes, hne]
  have hequal : g.equalizedSizes m .preferred axis = g.scanCellSizes m .preferred axis := by
    rw [equalizedSizes, groups_probe]
    exact equalizeAll_eq_self hcells hmember
  have hinside : g.GroupsInside axis := groupsInside_probe hgroups axis
  have hwidth : p.2 ≤ count := by
    have hstop := (h p (by simp)).2
    omega
  refine ⟨totalsFit_probe hgroups hbound hwidth hpass
    (fun pass => scanBaseSizes_probe_nonneg h pass (crossingSizes_nonneg p.2 t pass))
    fun pass i => ?_, ?_⟩
  · cases pass with
    | preferred =>
      rw [hpreferred, hbase]
      unfold crossingSizes
      split
      · split <;> omega
      · omega
    | minimum => exact hhighest i
  refine lt_of_eq_of_lt ?_ (hminimum.trans_le (grownAt_equalizedSizes m .minimum hinside).total_le)
  rw [hequal, hpreferred, total_eq_sum, length_scanBaseSizes, count_probe]
  refine (sum_scanBaseSizes_probe h _ (crossingSizes_nonneg p.2 t _) fun j hj =>
    mem_range.1 hj).trans (sum_crossingSizes_preferred _ (mem_range.2 ?_))
  exact (mem_Ico.1 htp).2.trans_le (h p (by simp)).2

end

end Grid

end GridLayout

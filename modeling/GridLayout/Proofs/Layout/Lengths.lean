import GridLayout.Proofs.Border.Grid
import GridLayout.Proofs.ButtonBar.Grid

/-!
# The lengths that a generated grid uses

A grid is made from the lengths of a border layout or a button bar, of which it does not use all:
not the gap beside an empty edge, and neither the left margin without a button nor the gap without
two. Making it fails only at a length below zero, and reports the first one among those that it
uses. The tracks that follow their components, the group of the buttons and the grid itself can
always be made.

* `RefusesNegative`: a computation fails exactly at the lengths below zero in a list.
  `RefusesNegative.bind` and `RefusesNegative.mapM` put such computations together.
* `BorderProperties.usedLengths` and `ButtonBarProperties.usedLengths`: the lengths that are used,
  in the order in which tracks are made of them.
* `BorderProperties.refusesNegative_build` and `ButtonBarProperties.refusesNegative_build`: these
  are the lengths that are refused.
-/

namespace GridLayout

/-- The first length below zero. -/
def firstNegative? (lengths : List Length) : Option Length :=
  lengths.find? fun l => l.value.isNegative

@[simp] theorem firstNegative?_nil : firstNegative? [] = none := rfl

@[simp] theorem firstNegative?_append (lengths lengths' : List Length) :
    firstNegative? (lengths ++ lengths') =
      (firstNegative? lengths).or (firstNegative? lengths') := List.find?_append

theorem firstNegative?_singleton (l : Length) :
    firstNegative? [l] = if l.value.isNegative then some l else none := by
  cases h : l.value.isNegative <;> simp [firstNegative?, h]

theorem isSome_firstNegative?_iff {lengths : List Length} :
    (firstNegative? lengths).isSome ↔ ∃ l ∈ lengths, l.value.isNegative = true :=
  List.find?_isSome

/-! ## Computations that refuse lengths below zero -/

/-- The computation fails exactly if a length is below zero, and reports the first one. -/
def RefusesNegative {α : Type} (f : Except LayoutError α) (lengths : List Length) : Prop :=
  ∀ fault, f = .error fault ↔
    ∃ l, firstNegative? lengths = some l ∧ fault = .argument (.negativeMinimum l)

namespace RefusesNegative

variable {α β : Type} {f : Except LayoutError α} {lengths lengths' : List Length}

theorem ok (a : α) : RefusesNegative (.ok a : Except LayoutError α) [] := by
  intro fault
  simp

theorem of_exists (h : ∃ a, f = .ok a) : RefusesNegative f [] := by
  obtain ⟨a, rfl⟩ := h
  exact ok a

/-- One length decides. -/
theorem singleton {l : Length} (hok : l.value.isNegative = false → ∃ a, f = .ok a)
    (herror : l.value.isNegative = true → f = .error (.argument (.negativeMinimum l))) :
    RefusesNegative f [l] := by
  intro fault
  rw [firstNegative?_singleton]
  cases hl : l.value.isNegative with
  | false =>
    obtain ⟨a, rfl⟩ := hok hl
    simp
  | true => simp [herror hl, eq_comm]

/-- A computation that succeeds found no length below zero. -/
theorem firstNegative?_eq_none (h : RefusesNegative f lengths) {a : α} (ha : f = .ok a) :
    firstNegative? lengths = none := by
  rcases hfirst : firstNegative? lengths with _ | l
  · rfl
  · have hfault := (h _).2 ⟨l, hfirst, rfl⟩
    rw [ha] at hfault
    cases hfault

/-- In sequence the lengths of the first computation come before those of the second. -/
theorem bind {k : α → Except LayoutError β} (hf : RefusesNegative f lengths)
    (hk : ∀ a, f = .ok a → RefusesNegative (k a) lengths') :
    RefusesNegative (f >>= k) (lengths ++ lengths') := by
  intro fault
  rw [firstNegative?_append]
  rcases hresult : f with fault' | a
  · obtain ⟨l, hfirst, rfl⟩ := (hf fault').1 hresult
    have hbind : (Except.error (.argument (.negativeMinimum l)) >>= k) =
        .error (.argument (.negativeMinimum l)) := rfl
    simp [hbind, hfirst, eq_comm]
  · rw [hf.firstNegative?_eq_none hresult, Option.none_or]
    exact hk a hresult fault

/-- A computation for each element of a list has the lengths of all of them. -/
theorem mapM {f : α → Except LayoutError β} {lengths : α → List Length} {l : List α}
    (h : ∀ a ∈ l, RefusesNegative (f a) (lengths a)) :
    RefusesNegative (l.mapM f) (l.flatMap lengths) := by
  induction l with
  | nil => exact ok []
  | cons a l ih =>
    obtain ⟨hfirst, hrest⟩ := List.forall_mem_cons.1 h
    rw [List.mapM_cons, List.flatMap_cons, ← List.append_nil (l.flatMap lengths)]
    exact hfirst.bind fun b _ => (ih hrest).bind fun rest _ => ok (b :: rest)

/-- Only the first length below zero matters. -/
theorem congr (h : RefusesNegative f lengths)
    (hfirst : firstNegative? lengths = firstNegative? lengths') : RefusesNegative f lengths' := by
  intro fault
  rw [h fault, hfirst]

theorem exists_error_iff (h : RefusesNegative f lengths) :
    (∃ fault, f = .error fault) ↔ ∃ l ∈ lengths, l.value.isNegative = true := by
  rw [← isSome_firstNegative?_iff, Option.isSome_iff_exists]
  simp only [h _]
  constructor
  · rintro ⟨_, l, hfirst, -⟩
    exact ⟨l, hfirst⟩
  · rintro ⟨l, hfirst⟩
    exact ⟨_, l, hfirst, rfl⟩

end RefusesNegative

/-! ## Border layouts -/

namespace BorderProperties

open BorderRegion

/-- The gap beside an edge, if that is occupied. -/
def usedGap (p : BorderProperties) (edge : BorderRegion) : List Length :=
  if p.occupied edge then [p.spacing.gap edge] else []

/-- The lengths that are used along an axis. -/
def usedAlong (p : BorderProperties) (axis : Axis) : List Length :=
  [p.spacing.margin (leading axis)] ++ p.usedGap (leading axis) ++ p.usedGap (trailing axis) ++
    [p.spacing.margin (trailing axis)]

/-- The lengths that the grid uses. -/
def usedLengths (p : BorderProperties) : List Length :=
  p.usedAlong .horizontal ++ p.usedAlong .vertical

theorem refusesNegative_fixedTrack (l : Length) : RefusesNegative (fixedTrack l) [l] := by
  refine .singleton (fun h => ⟨_, fixedTrack_eq_ok_iff.2 ⟨h, rfl⟩⟩) fun h => ?_
  rw [fixedTrack, TrackBuilder.setMinimum, dif_neg (by simp [h])]
  rfl

/-- An empty edge has no gap that could be refused. -/
theorem firstNegative?_gapBeside (p : BorderProperties) (edge : BorderRegion) :
    firstNegative? [p.gapBeside edge (p.spacing.gap edge)] = firstNegative? (p.usedGap edge) := by
  unfold gapBeside usedGap
  split
  · rfl
  · rw [firstNegative?_singleton, Length.isNegative_zero]
    rfl

theorem refusesNegative_trackList (margin gap gap' margin' : Length) :
    RefusesNegative (trackList margin gap gap' margin')
      ([margin] ++ [gap] ++ [gap'] ++ [margin']) := by
  have hedge : RefusesNegative (elasticTrack 0) [] := .of_exists ⟨_, elasticTrack_eq .zero⟩
  have hcenter : RefusesNegative (elasticTrack 100) [] :=
    .of_exists ⟨_, elasticTrack_eq centerWeight⟩
  have hstrip := refusesNegative_fixedTrack
  exact (hstrip margin).bind fun m _ => hedge.bind fun edge _ => (hstrip gap).bind fun g _ =>
    hcenter.bind fun center _ => (hstrip gap').bind fun g' _ => hedge.bind fun edge' _ =>
    (hstrip margin').bind fun m' _ => .ok [m, edge, g, center, g', edge', m']

theorem refusesNegative_tracks (p : BorderProperties) (axis : Axis) :
    RefusesNegative (p.tracks axis) (p.usedAlong axis) := by
  rw [tracks_eq_trackList]
  refine (refusesNegative_trackList _ _ _ _).congr ?_
  simp only [usedAlong, firstNegative?_append, firstNegative?_gapBeside]

/-- **A border layout refuses the lengths below zero that its grid uses**, and nothing else. -/
theorem refusesNegative_build (p : BorderProperties) :
    RefusesNegative p.build p.usedLengths := by
  rw [build_eq, usedLengths, ← List.append_nil (p.usedAlong .vertical)]
  refine (p.refusesNegative_tracks .horizontal).bind fun columns hcolumns =>
    (p.refusesNegative_tracks .vertical).bind fun rows hrows => .of_exists ?_
  rw [tracks_eq_trackList, trackList_eq_ok_iff] at hcolumns hrows
  obtain ⟨_, _, _, _, rfl⟩ := hcolumns
  obtain ⟨_, _, _, _, rfl⟩ := hrows
  exact ⟨_, rfl⟩

end BorderProperties

/-! ## Button bars -/

namespace ButtonBarProperties

/-- The lengths that the columns use. -/
def usedByColumns (p : ButtonBarProperties) : List Length :=
  (if p.buttons = [] then [] else [p.spacing.leftMargin]) ++
    (if 1 < p.buttons.length then [p.spacing.gap] else []) ++ [p.spacing.rightMargin]

/-- The lengths that the grid uses. -/
def usedLengths (p : ButtonBarProperties) : List Length :=
  p.usedByColumns ++ [p.spacing.topMargin] ++ [p.spacing.bottomMargin]

/-- The length of the column at an index, unless that is the column of a button. -/
def lengthOfColumn (p : ButtonBarProperties) (index : Nat) : List Length :=
  if index = 2 * p.buttons.length then [p.spacing.rightMargin]
  else if index = 0 then [p.spacing.leftMargin]
  else if index % 2 = 0 then [p.spacing.gap]
  else []

theorem refusesNegative_marginTrack (l : Length) {n : Int} (hzero : 0 ≤ n) (hhundred : n ≤ 100) :
    RefusesNegative (marginTrack l n) [l] := by
  refine .singleton (exists_marginTrack_iff hzero hhundred).2 fun h => ?_
  obtain ⟨weight, rfl⟩ : ∃ weight : Weight, n = weight.val :=
    ⟨⟨n.toNat, Int.toNat_le.2 hhundred⟩, (Int.toNat_of_nonneg hzero).symm⟩
  rw [marginTrack, TrackBuilder.setWeight_eq, TrackBuilder.setMinimum, dif_neg (by simp [h])]
  rfl

theorem refusesNegative_column (p : ButtonBarProperties) (index : Nat) :
    RefusesNegative (p.column index) (p.lengthOfColumn index) := by
  unfold column lengthOfColumn
  split
  · refine refusesNegative_marginTrack _ ?_ ?_ <;> cases p.alignment <;> decide
  split
  · refine refusesNegative_marginTrack _ ?_ ?_ <;> cases p.alignment <;> decide
  split
  · exact refusesNegative_marginTrack _ le_rfl (by decide)
  · exact .of_exists ⟨_, buttonTrack_eq⟩

/-- A list of nothing but one length is as good as that length, unless it is empty. -/
theorem firstNegative?_of_forall_eq {lengths : List Length} {l : Length}
    (h : ∀ other ∈ lengths, other = l) (hne : lengths ≠ []) :
    firstNegative? lengths = firstNegative? [l] := by
  rw [List.eq_replicate_of_mem h, firstNegative?_singleton, firstNegative?, List.find?_replicate,
    if_neg (mt List.eq_nil_of_length_eq_zero hne)]

/-- Between the outer columns there are buttons and gaps, which need two buttons. -/
theorem firstNegative?_gaps (p : ButtonBarProperties) {count : Nat}
    (hcount : p.buttons.length = count + 1) :
    firstNegative? (((List.range (2 * count + 1)).map Nat.succ).flatMap p.lengthOfColumn) =
      firstNegative? (if 1 < p.buttons.length then [p.spacing.gap] else []) := by
  have hbetween {i : Nat} (hi : i < 2 * count + 1) :
      p.lengthOfColumn i.succ = if i.succ % 2 = 0 then [p.spacing.gap] else [] := by
    rw [lengthOfColumn, if_neg (by omega), if_neg (Nat.succ_ne_zero i)]
  split
  · next hseveral =>
    refine firstNegative?_of_forall_eq (fun l hl => ?_) (List.ne_nil_of_mem (a := p.spacing.gap) ?_)
    · simp only [List.flatMap_map, List.mem_flatMap, List.mem_range] at hl
      obtain ⟨i, hi, hl⟩ := hl
      rw [hbetween hi] at hl
      split at hl
      · exact List.mem_singleton.1 hl
      · cases hl
    · -- right of the first button is a gap
      simp only [List.flatMap_map, List.mem_flatMap, List.mem_range]
      exact ⟨1, by omega, by simp [hbetween (i := 1) (by omega)]⟩
  · next hone =>
    obtain rfl : count = 0 := by omega
    simp [hbetween]

/-- The columns use the two margins, and the gap between them. -/
theorem firstNegative?_lengthOfColumn (p : ButtonBarProperties) :
    firstNegative? ((List.range (2 * p.buttons.length + 1)).flatMap p.lengthOfColumn) =
      firstNegative? p.usedByColumns := by
  rcases hcount : p.buttons.length with _ | count
  · have hnil : p.buttons = [] := List.eq_nil_of_length_eq_zero hcount
    simp [usedByColumns, lengthOfColumn, hnil]
  · have hne : p.buttons ≠ [] := List.ne_nil_of_length_eq_add_one hcount
    have hsplit : List.range (2 * (count + 1) + 1) =
        [0] ++ (List.range (2 * count + 1)).map Nat.succ ++ [2 * (count + 1)] := by
      rw [List.range_succ, Nat.mul_add, Nat.mul_one, List.range_succ_eq_map]
      rfl
    have hleft : p.lengthOfColumn 0 = [p.spacing.leftMargin] := by
      rw [lengthOfColumn, if_neg (by omega), if_pos rfl]
    have hright : p.lengthOfColumn (2 * (count + 1)) = [p.spacing.rightMargin] := by
      rw [lengthOfColumn, if_pos (by omega)]
    simp only [hsplit, List.flatMap_append, List.flatMap_singleton, firstNegative?_append, hleft,
      hright, p.firstNegative?_gaps hcount, usedByColumns, if_neg hne]

/-- **A button bar refuses the lengths below zero that its grid uses**, and nothing else. -/
theorem refusesNegative_build (p : ButtonBarProperties) :
    RefusesNegative p.build p.usedLengths := by
  have hcolumns := (RefusesNegative.mapM fun index _ => p.refusesNegative_column index).congr
    p.firstNegative?_lengthOfColumn
  have hmargin (l : Length) : RefusesNegative (marginTrack l 0) [l] :=
    refusesNegative_marginTrack l le_rfl (by decide)
  rw [build_eq, usedLengths, ← List.append_nil (_ ++ [p.spacing.bottomMargin]), List.append_assoc,
    List.append_assoc]
  refine hcolumns.bind fun columns hc => (hmargin _).bind fun top _ => (hmargin _).bind
    fun bottom _ => .of_exists ?_
  have hgrid := Grid.ofTracks_eq_ok (columns_ne_nil hc) (List.cons_ne_nil top [.defaultRow, bottom])
  obtain ⟨groups, hgroups⟩ := p.exists_columnGroups
  exact ⟨_, bind_eq_ok_iff.2 ⟨_, hgrid, bind_eq_ok_iff.2 ⟨groups, hgroups, rfl⟩⟩⟩

end ButtonBarProperties

end GridLayout

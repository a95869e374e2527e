import GridLayout.Proofs.Grid.Growth
import GridLayout.Proofs.Grid.History
import GridLayout.Proofs.Track.Generated

/-!
# The grid of a button bar

The columns of a bar of `n` buttons are two strips for the margins, a strip between any two buttons
and an elastic track for each button; if there are several buttons, their columns are in one group.
Every button has a column of its own.

* `ButtonBarProperties.build_eq`: the grid from its tracks, its group and its buttons.
* `ButtonBarProperties.exists_build_iff`: when there is one.
* `ButtonBarProperties.IsGrid`: what is known of a grid that was made, with a lemma for each kind of
  column.
-/

namespace GridLayout

namespace ButtonBarProperties

/-- The buttons with their places in the grid. -/
def entries (p : ButtonBarProperties) : List Entry :=
  p.buttons.zipIdx.map fun (id, i) => ⟨id, .single (buttonColumn i) 1⟩

/-- The group of the buttons, if there are several. -/
def columnGroups (p : ButtonBarProperties) : Except LayoutError (List TrackGroup) :=
  if 1 < p.buttons.length then do
    let group ← TrackGroup.ofList ((List.range p.buttons.length).map buttonColumn)
    return [group]
  else return []

/-- The grid of a button bar from its tracks, its group and its buttons. -/
theorem build_eq (p : ButtonBarProperties) :
    p.build = (List.range (2 * p.buttons.length + 1)).mapM p.column >>= fun columns =>
      marginTrack p.spacing.topMargin 0 >>= fun top =>
      marginTrack p.spacing.bottomMargin 0 >>= fun bottom =>
      Grid.ofTracks columns [top, .defaultRow, bottom] >>= fun grid =>
      p.columnGroups >>= fun groups => .ok {
        lanes := grid.lanes.modify .horizontal fun lane =>
          { lane with groups := lane.groups ++ groups }
        components := p.entries.foldl (fun l e => Grid.register e l) grid.components
        canShrink := p.canShrink } := by
  have hadd (grid : Grid) : p.buttons.zipIdx.foldl
      (fun g (id, i) => g.add id (.single (buttonColumn i) 1)) grid =
        { grid with
          components := p.entries.foldl (fun l e => Grid.register e l) grid.components } := by
    rw [← Grid.foldl_add, entries, List.foldl_map]
  unfold build columnGroups
  simp only [hadd]
  rcases (List.range (2 * p.buttons.length + 1)).mapM p.column with _ | columns
  · rfl
  rcases marginTrack p.spacing.topMargin 0 with _ | top
  · rfl
  rcases marginTrack p.spacing.bottomMargin 0 with _ | bottom
  · rfl
  simp only [bind, Except.bind]
  rcases Grid.ofTracks columns [top, .defaultRow, bottom] with _ | grid
  · rfl
  by_cases hcount : 1 < p.buttons.length
  · simp only [if_pos hcount]
    rcases TrackGroup.ofList ((List.range p.buttons.length).map buttonColumn) with _ | group <;> rfl
  · simp [if_neg hcount, pure, Except.pure, PerAxis.modify]

/-- Whether the bar may shrink shows nowhere else in its grid. -/
theorem build_setCanShrink {p : ButtonBarProperties} {g : Grid}
    (h : p.build = .ok g) (canShrink : Bool) :
    { p with canShrink }.build = .ok { g with canShrink } := by
  rw [build_eq] at h ⊢
  obtain ⟨columns, hcolumns, h⟩ := bind_eq_ok_iff.1 h
  obtain ⟨top, htop, h⟩ := bind_eq_ok_iff.1 h
  obtain ⟨bottom, hbottom, h⟩ := bind_eq_ok_iff.1 h
  obtain ⟨grid, hgrid, h⟩ := bind_eq_ok_iff.1 h
  obtain ⟨groups, hgroups, h⟩ := bind_eq_ok_iff.1 h
  obtain rfl := Except.ok.inj h
  exact bind_eq_ok_iff.2 ⟨columns, hcolumns, bind_eq_ok_iff.2 ⟨top, htop, bind_eq_ok_iff.2
    ⟨bottom, hbottom, bind_eq_ok_iff.2 ⟨grid, hgrid, bind_eq_ok_iff.2 ⟨groups, hgroups, rfl⟩⟩⟩⟩⟩

/-! ## Which grids are made -/

/-- No length that the bar uses is below zero: the left margin is used if there is a button, and the
gap if there are several. -/
structure LengthsNonneg (p : ButtonBarProperties) : Prop where
  rightMargin : p.spacing.rightMargin.value.isNegative = false
  topMargin : p.spacing.topMargin.value.isNegative = false
  bottomMargin : p.spacing.bottomMargin.value.isNegative = false
  leftMargin : p.buttons ≠ [] → p.spacing.leftMargin.value.isNegative = false
  gap : 1 < p.buttons.length → p.spacing.gap.value.isNegative = false

theorem exists_columns_iff {p : ButtonBarProperties} :
    (∃ columns, (List.range (2 * p.buttons.length + 1)).mapM p.column = .ok columns) ↔
      p.spacing.rightMargin.value.isNegative = false ∧
        (p.buttons ≠ [] → p.spacing.leftMargin.value.isNegative = false) ∧
        (1 < p.buttons.length → p.spacing.gap.value.isNegative = false) := by
  have hleft : 0 ≤ p.alignment.leftWeight ∧ p.alignment.leftWeight ≤ 100 := by
    cases p.alignment <;> decide
  have hright : 0 ≤ p.alignment.rightWeight ∧ p.alignment.rightWeight ≤ 100 := by
    cases p.alignment <;> decide
  rw [exists_mapM_iff]
  constructor
  · intro h
    have hcolumn {i : Nat} (hi : i < 2 * p.buttons.length + 1) := h i (List.mem_range.2 hi)
    refine ⟨?_, fun hne => ?_, fun hseveral => ?_⟩
    · have hlast := hcolumn (Nat.lt_succ_self _)
      rwa [column, if_pos rfl, exists_marginTrack_iff hright.1 hright.2] at hlast
    · have hcount := List.length_pos_of_ne_nil hne
      have hfirst := hcolumn (i := 0) (by omega)
      rwa [column, if_neg (by omega), if_pos rfl, exists_marginTrack_iff hleft.1 hleft.2] at hfirst
    · have hsecond := hcolumn (i := 2) (by omega)
      rwa [column, if_neg (by omega), if_neg (by decide), if_pos rfl,
        exists_marginTrack_iff le_rfl (by decide)] at hsecond
  · rintro ⟨hrightMargin, hleftMargin, hgap⟩ i hi
    rw [List.mem_range] at hi
    unfold column
    split
    · exact (exists_marginTrack_iff hright.1 hright.2).2 hrightMargin
    · split
      · refine (exists_marginTrack_iff hleft.1 hleft.2).2 (hleftMargin ?_)
        exact List.ne_nil_of_length_pos (by omega)
      · split
        · exact (exists_marginTrack_iff le_rfl (by decide)).2 (hgap (by omega))
        · exact ⟨_, buttonTrack_eq⟩

/-- There is always a column. -/
theorem columns_ne_nil {p : ButtonBarProperties} {columns : List Track}
    (h : (List.range (2 * p.buttons.length + 1)).mapM p.column = .ok columns) : columns ≠ [] := by
  have hlength := (mapM_eq_ok_iff.1 h).length_eq
  rw [List.length_range] at hlength
  exact List.ne_nil_of_length_pos (by omega)

theorem exists_columnGroups (p : ButtonBarProperties) : ∃ groups, p.columnGroups = .ok groups := by
  unfold columnGroups
  split
  · next hseveral =>
    have hascending : ((List.range p.buttons.length).map buttonColumn).Pairwise (· < ·) := by
      refine List.pairwise_map.2 (List.pairwise_lt_range.imp fun hlt => ?_)
      unfold buttonColumn
      omega
    have htwo : 2 ≤ ((List.range p.buttons.length).map buttonColumn).length := by
      rw [List.length_map, List.length_range]
      exact hseveral
    obtain ⟨group, hgroup⟩ :=
      TrackGroup.exists_ofList_iff.2 ⟨htwo, hascending.imp Nat.ne_of_lt⟩
    exact ⟨[group], bind_eq_ok_iff.2 ⟨group, hgroup, rfl⟩⟩
  · exact ⟨[], rfl⟩

/-- There is a grid exactly if no length that it uses is below zero. -/
theorem exists_build_iff {p : ButtonBarProperties} :
    (∃ g, p.build = .ok g) ↔ p.LengthsNonneg := by
  have hmargin (l : Length) : (∃ track, marginTrack l 0 = .ok track) ↔ l.value.isNegative = false :=
    exists_marginTrack_iff le_rfl (by decide)
  rw [build_eq]
  constructor
  · rintro ⟨g, h⟩
    obtain ⟨columns, hcolumns, h⟩ := bind_eq_ok_iff.1 h
    obtain ⟨top, htop, h⟩ := bind_eq_ok_iff.1 h
    obtain ⟨bottom, hbottom, -⟩ := bind_eq_ok_iff.1 h
    obtain ⟨hright, hleft, hgap⟩ := exists_columns_iff.1 ⟨columns, hcolumns⟩
    exact ⟨hright, (hmargin _).1 ⟨top, htop⟩, (hmargin _).1 ⟨bottom, hbottom⟩, hleft, hgap⟩
  · intro h
    obtain ⟨columns, hcolumns⟩ := exists_columns_iff.2 ⟨h.rightMargin, h.leftMargin, h.gap⟩
    obtain ⟨top, htop⟩ := (hmargin _).2 h.topMargin
    obtain ⟨bottom, hbottom⟩ := (hmargin _).2 h.bottomMargin
    obtain ⟨groups, hgroups⟩ := p.exists_columnGroups
    have hgrid := Grid.ofTracks_eq_ok (columns_ne_nil hcolumns)
      (List.cons_ne_nil top [.defaultRow, bottom])
    exact ⟨_, bind_eq_ok_iff.2 ⟨_, hcolumns, bind_eq_ok_iff.2 ⟨_, htop, bind_eq_ok_iff.2
      ⟨_, hbottom, bind_eq_ok_iff.2 ⟨_, hgrid, bind_eq_ok_iff.2 ⟨_, hgroups, rfl⟩⟩⟩⟩⟩⟩

/-! ## A grid that was made -/

theorem map_id_entries (p : ButtonBarProperties) : p.entries.map Entry.id = p.buttons := by
  rw [entries, List.map_map]
  exact List.zipIdx_map_fst 0 p.buttons

theorem getElem?_entries (p : ButtonBarProperties) (i : Nat) :
    p.entries[i]? = (p.buttons[i]?).map fun id => ⟨id, .single (buttonColumn i) 1⟩ := by
  simp [entries, List.getElem?_zipIdx]
  cases p.buttons[i]? <;> rfl

theorem mem_entries {p : ButtonBarProperties} {e : Entry} :
    e ∈ p.entries ↔ ∃ k id, p.buttons[k]? = some id ∧ e = ⟨id, .single (buttonColumn k) 1⟩ := by
  rw [List.mem_iff_getElem?]
  refine exists_congr fun k => ?_
  rw [getElem?_entries, Option.map_eq_some_iff]
  exact exists_congr fun id => and_congr_right fun _ => eq_comm

/-- The grid was made from the properties of a bar. -/
structure IsGrid (p : ButtonBarProperties) (g : Grid) : Prop where
  count_eq : g.count .horizontal = 2 * p.buttons.length + 1
  column : ∀ {i track}, (g.tracks .horizontal)[i]? = some track → p.column i = .ok track
  columnGroups : p.columnGroups = .ok (g.groups .horizontal)
  rows : g.count .vertical = 3 ∧ g.groups .vertical = []
  components : g.components = p.entries
  canShrink : g.canShrink = p.canShrink

theorem isGrid_of_build {p : ButtonBarProperties} (hids : p.buttons.Nodup) {g : Grid}
    (h : p.build = .ok g) : p.IsGrid g := by
  rw [build_eq] at h
  obtain ⟨columns, hcolumns, h⟩ := bind_eq_ok_iff.1 h
  obtain ⟨top, -, h⟩ := bind_eq_ok_iff.1 h
  obtain ⟨bottom, -, h⟩ := bind_eq_ok_iff.1 h
  obtain ⟨grid, hgrid, h⟩ := bind_eq_ok_iff.1 h
  obtain ⟨groups, hgroups, h⟩ := bind_eq_ok_iff.1 h
  obtain rfl := Except.ok.inj h
  obtain rfl := Grid.eq_of_ofTracks hgrid
  have hlength := (mapM_eq_ok_iff.1 hcolumns).length_eq
  rw [List.length_range] at hlength
  constructor
  · exact hlength.symm
  · intro i track htrack
    obtain ⟨index, hindex, hcolumn⟩ := getElem?_of_mapM hcolumns htrack
    obtain ⟨hi, rfl⟩ := List.getElem?_eq_some_iff.1 hindex
    simpa using hcolumn
  · exact hgroups
  · exact ⟨rfl, rfl⟩
  · exact Grid.foldl_register (by simpa [map_id_entries] using hids)
  · rfl

namespace IsGrid

variable {p : ButtonBarProperties} {g : Grid}

/-- There is a track at every index of a column. -/
theorem exists_track (h : p.IsGrid g) {i : Nat} (hi : i < 2 * p.buttons.length + 1) :
    ∃ track, (g.tracks .horizontal)[i]? = some track :=
  ⟨_, List.getElem?_eq_getElem (hi.trans_eq h.count_eq.symm)⟩

/-- The first column is the left margin. -/
theorem leftMargin (h : p.IsGrid g) (hne : p.buttons ≠ []) :
    ∃ hnonneg weight, p.alignment.leftWeight = (weight : Weight).val ∧
      (g.tracks .horizontal)[0]? = some (.strip p.spacing.leftMargin hnonneg weight) := by
  obtain ⟨track, htrack⟩ := h.exists_track (i := 0) (by omega)
  have hcount := List.length_pos_of_ne_nil hne
  have hcolumn := h.column htrack
  rw [ButtonBarProperties.column, if_neg (by omega), if_pos rfl, marginTrack_eq_ok_iff] at hcolumn
  obtain ⟨hnonneg, weight, hweight, rfl⟩ := hcolumn
  exact ⟨hnonneg, weight, hweight, htrack⟩

/-- The last column is the right margin. -/
theorem rightMargin (h : p.IsGrid g) :
    ∃ hnonneg weight, p.alignment.rightWeight = (weight : Weight).val ∧
      (g.tracks .horizontal)[2 * p.buttons.length]? =
        some (.strip p.spacing.rightMargin hnonneg weight) := by
  obtain ⟨track, htrack⟩ := h.exists_track (i := 2 * p.buttons.length) (by omega)
  have hcolumn := h.column htrack
  rw [ButtonBarProperties.column, if_pos rfl, marginTrack_eq_ok_iff] at hcolumn
  obtain ⟨hnonneg, weight, hweight, rfl⟩ := hcolumn
  exact ⟨hnonneg, weight, hweight, htrack⟩

/-- The columns with an even index between them are gaps. -/
theorem gap (h : p.IsGrid g) {i : Nat} (hi : i + 1 < p.buttons.length) :
    ∃ hnonneg, (g.tracks .horizontal)[2 * i + 2]? =
      some (.strip p.spacing.gap hnonneg .zero) := by
  obtain ⟨track, htrack⟩ := h.exists_track (i := 2 * i + 2) (by omega)
  have hcolumn := h.column htrack
  rw [ButtonBarProperties.column, if_neg (by omega), if_neg (by omega), if_pos (by omega),
    marginTrack_eq_ok_iff] at hcolumn
  obtain ⟨hnonneg, weight, hweight, rfl⟩ := hcolumn
  obtain rfl : weight = .zero := Subtype.ext (Int.natCast_eq_zero.1 hweight.symm)
  exact ⟨hnonneg, htrack⟩

/-- The columns with an odd index are those of the buttons. -/
theorem buttonColumn (h : p.IsGrid g) {i : Nat} (hi : i < p.buttons.length) :
    (g.tracks .horizontal)[buttonColumn i]? = some (.elastic .zero) := by
  unfold ButtonBarProperties.buttonColumn
  obtain ⟨track, htrack⟩ := h.exists_track (i := 2 * i + 1) (by omega)
  have hcolumn := h.column htrack
  rw [ButtonBarProperties.column, if_neg (by omega), if_neg (by omega), if_neg (by omega),
    buttonTrack_eq] at hcolumn
  rw [htrack, Except.ok.inj hcolumn]

/-- Several buttons are in one group, and there is no other one. -/
theorem columnGroups_eq (h : p.IsGrid g) :
    (1 < p.buttons.length ∧ ∃ group, g.groups .horizontal = [group] ∧
      ∀ i, i ∈ group.indices ↔ ∃ k < p.buttons.length, i = ButtonBarProperties.buttonColumn k) ∨
    (p.buttons.length ≤ 1 ∧ g.groups .horizontal = []) := by
  have hgroups := h.columnGroups
  unfold ButtonBarProperties.columnGroups at hgroups
  split at hgroups
  · next hseveral =>
    obtain ⟨group, hgroup, hgroups⟩ := bind_eq_ok_iff.1 hgroups
    refine .inl ⟨hseveral, group, (Except.ok.inj hgroups).symm, fun i => ?_⟩
    simp [TrackGroup.mem_indices_of_ofList hgroup, eq_comm]
  · next hfew => exact .inr ⟨by omega, (Except.ok.inj hgroups).symm⟩

/-- All groups lie inside the columns. -/
theorem groupsInside (h : p.IsGrid g) (axis : Axis) : g.GroupsInside axis := by
  intro group hgroup
  cases axis with
  | horizontal =>
    rcases h.columnGroups_eq with ⟨-, only, honly, hmem⟩ | ⟨-, hnone⟩
    · rw [honly, List.mem_singleton] at hgroup
      subst hgroup
      obtain ⟨k, hk, hlast⟩ := (hmem _).1 group.maxIndex_mem
      rw [h.count_eq, hlast, ButtonBarProperties.buttonColumn]
      omega
    · simp [hnone] at hgroup
  | vertical => simp [h.rows.2] at hgroup

/-- A grid that was made has no fault. -/
theorem check_eq_ok (h : p.IsGrid g) : g.check = .ok () := by
  rw [Grid.check_eq_ok_iff, h.components]
  constructor
  · intro e he
    obtain ⟨k, id, hid, rfl⟩ := mem_entries.1 he
    have hk : k < p.buttons.length := (List.getElem?_eq_some_iff.1 hid).1
    have hcount := h.count_eq
    have hrows := h.rows.1
    constructor
    · intro axis
      cases axis <;> exact Nat.one_pos
    · intro axis
      cases axis <;>
        simp only [Placement.single, Slot.single, Slot.stop, PerAxis.along,
          ButtonBarProperties.buttonColumn] <;> omega
    · intro axis target htarget
      cases axis <;> cases htarget
  · have hcorner {k : Nat} (hk : k < p.entries.length) :
        p.entries[k].placement.corner = (ButtonBarProperties.buttonColumn k, 1) := by
      have hentry := p.getElem?_entries k
      rw [List.getElem?_eq_getElem hk] at hentry
      obtain ⟨id, -, heq⟩ := Option.map_eq_some_iff.1 hentry.symm
      rw [← heq]
      rfl
    refine List.pairwise_iff_getElem.2 fun i j hi hj hlt hsame => ?_
    rw [hcorner hi, hcorner hj] at hsame
    have hcolumn := congrArg Prod.fst hsame
    unfold ButtonBarProperties.buttonColumn at hcolumn
    omega

/-- Every button is alone in its column. -/
theorem mem_aloneIn (h : p.IsGrid g) {e : Entry} {i : Nat} :
    e ∈ g.aloneIn .horizontal i ↔ ∃ k id, p.buttons[k]? = some id ∧
      i = ButtonBarProperties.buttonColumn k ∧ e = ⟨id, .single i 1⟩ := by
  have halone (k : Nat) (id : ComponentId) :
      Entry.isAlone .horizontal i ⟨id, .single (ButtonBarProperties.buttonColumn k) 1⟩ = true ↔
        i = ButtonBarProperties.buttonColumn k := by
    simp only [Entry.isAlone, Placement.single, Slot.single, PerAxis.along, beq_self_eq_true,
      Bool.true_and, beq_iff_eq]
    exact eq_comm
  rw [Grid.aloneIn, h.components, List.mem_filter, mem_entries]
  constructor
  · rintro ⟨⟨k, id, hid, rfl⟩, hcolumn⟩
    obtain rfl := (halone k id).1 hcolumn
    exact ⟨k, id, hid, rfl, rfl⟩
  · rintro ⟨k, id, hid, rfl, rfl⟩
    exact ⟨⟨k, id, hid, rfl⟩, (halone k id).2 rfl⟩

/-- No button covers several columns. -/
theorem spanning_eq_nil (h : p.IsGrid g) : g.spanning .horizontal = [] := by
  rw [Grid.spanning, h.components, List.filter_eq_nil_iff]
  intro e he
  obtain ⟨k, id, -, rfl⟩ := mem_entries.1 he
  simp [Entry.isSpanning, Placement.single, Slot.single, PerAxis.along]

end IsGrid

end ButtonBarProperties

end GridLayout

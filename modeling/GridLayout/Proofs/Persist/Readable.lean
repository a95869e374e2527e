import GridLayout.Persist.Instances

/-!
# Which grids can be read

A value can be read if it has some persisted form, not necessarily the one it is written in: an
infinite length is read from a numeral that overflows, but what is written for it is not read. A
composite value can be read if its parts can, so the parts of one that was read can be put together
in another way.

* `Persisted.Readable`: the property.
* `readable_placement_iff` and `readable_grid_iff`: the parts of placements and grids.
-/

namespace GridLayout

namespace Persisted

variable {α β : Type} [Persisted α] [Persisted β]

/-- Some value is read as this one. -/
def Readable (a : α) : Prop := ∃ v, decode v = some a

/-! ## Fields -/

theorem readable_of_required {v : Value} {name : String} {a : α} (h : required v name = some a) :
    Readable a := by
  obtain ⟨w, -, hw⟩ := Option.bind_eq_some_iff.1 h
  exact ⟨w, hw⟩

theorem readable_of_defaulted {v : Value} {name : String} {a default : α}
    (hdefault : Readable default) (h : defaulted v name default = some a) : Readable a := by
  unfold defaulted at h
  split at h
  · exact ⟨_, h⟩
  · obtain rfl := Option.some.inj h
    exact hdefault

theorem readable_of_optional {v : Value} {name : String} {a : Option α}
    (h : optional v name = some a) : ∀ b ∈ a, Readable b := by
  intro b hb
  unfold optional at h
  split at h
  · obtain rfl := Option.some.inj h
    cases hb
  · obtain rfl := Option.some.inj h
    cases hb
  · obtain ⟨c, hc, rfl⟩ := Option.map_eq_some_iff.1 h
    obtain rfl := Option.some.inj hb
    exact ⟨_, hc⟩

/-- A field for an optional value, null if there is none. -/
theorem exists_optional {a : Option α} (hnull : decode .null = (none : Option α))
    (h : ∀ b ∈ a, Readable b) :
    ∃ w, ∀ (v : Value) (name : String), v.field? name = some w → optional v name = some a := by
  rcases a with _ | b
  · refine ⟨.null, fun v name hfield => ?_⟩
    rw [optional, hfield]
  · obtain ⟨w, hw⟩ := h b rfl
    refine ⟨w, fun v name hfield => ?_⟩
    have hne : w ≠ .null := by
      rintro rfl
      rw [hnull] at hw
      cases hw
    unfold optional
    rw [hfield]
    split
    · next heq => cases heq
    · next heq => exact absurd (Option.some.inj heq) hne
    · next heq =>
      obtain rfl := Option.some.inj heq
      rw [hw, Option.map_some]

/-! ## Lists and pairs -/

theorem readable_bool (b : Bool) : Readable b := ⟨.bool b, rfl⟩

theorem readable_list_iff {l : List α} : Readable l ↔ ∀ a ∈ l, Readable a := by
  constructor
  · rintro ⟨v, hv⟩
    obtain ⟨items, hitems⟩ : ∃ items : List Value, items.mapM decode = some l := by
      cases v with
      | list items => exact ⟨items, hv⟩
      | null | bool | int | float | text | object => cases hv
    clear hv
    induction items generalizing l with
    | nil =>
      obtain rfl := Option.some.inj hitems
      simp
    | cons item items ih =>
      rw [List.mapM_cons] at hitems
      obtain ⟨a, ha, hitems⟩ := Option.bind_eq_some_iff.1 hitems
      obtain ⟨rest, hrest, hl⟩ := Option.bind_eq_some_iff.1 hitems
      obtain rfl := Option.some.inj hl
      exact List.forall_mem_cons.2 ⟨⟨item, ha⟩, ih hrest⟩
  · intro h
    suffices hitems : ∃ items : List Value, items.mapM decode = some l by
      obtain ⟨items, hitems⟩ := hitems
      exact ⟨.list items, hitems⟩
    induction l with
    | nil => exact ⟨[], rfl⟩
    | cons a l ih =>
      obtain ⟨⟨v, hv⟩, hl⟩ := List.forall_mem_cons.1 h
      obtain ⟨items, hitems⟩ := ih hl
      refine ⟨v :: items, ?_⟩
      rw [List.mapM_cons, hv, hitems]
      rfl

theorem readable_nil : Readable ([] : List α) := ⟨.list [], rfl⟩

theorem readable_pair_iff {p : α × β} : Readable p ↔ Readable p.1 ∧ Readable p.2 := by
  constructor
  · rintro ⟨v, hv⟩
    obtain ⟨v, w, hpair⟩ : ∃ v w : Value,
        (do return (← decode v, ← decode w) : Option (α × β)) = some p := by
      cases v with
      | list items =>
        match items, hv with
        | [v, w], hv => exact ⟨v, w, hv⟩
      | null | bool | int | float | text | object => cases hv
    obtain ⟨a, ha, hrest⟩ := Option.bind_eq_some_iff.1 hpair
    obtain ⟨b, hb, heq⟩ := Option.bind_eq_some_iff.1 hrest
    obtain rfl := Option.some.inj heq
    exact ⟨⟨v, ha⟩, ⟨w, hb⟩⟩
  · rintro ⟨⟨v, hv⟩, ⟨w, hw⟩⟩
    refine ⟨.list [v, w], ?_⟩
    change (do return (← decode v, ← decode w) : Option (α × β)) = some p
    rw [hv, hw]
    rfl

/-! ## Grids -/

/-- The numbers of the slot and its own track can be read. -/
structure SlotReadable (slot : Slot) : Prop where
  start : Readable slot.start
  span : Readable slot.span
  target : ∀ target ∈ slot.target, Readable target
  override : ∀ track ∈ slot.override, Readable track

theorem readable_placement_iff {p : Placement} :
    Readable p ↔ ∀ axis, SlotReadable (p.along axis) := by
  constructor
  · rintro ⟨v, hv⟩
    obtain ⟨column, hcolumn, hv⟩ := Option.bind_eq_some_iff.1 hv
    obtain ⟨row, hrow, hv⟩ := Option.bind_eq_some_iff.1 hv
    obtain ⟨spanX, hspanX, hv⟩ := Option.bind_eq_some_iff.1 hv
    obtain ⟨spanY, hspanY, hv⟩ := Option.bind_eq_some_iff.1 hv
    obtain ⟨targetX, htargetX, hv⟩ := Option.bind_eq_some_iff.1 hv
    obtain ⟨targetY, htargetY, hv⟩ := Option.bind_eq_some_iff.1 hv
    obtain ⟨overrideX, hoverrideX, hv⟩ := Option.bind_eq_some_iff.1 hv
    obtain ⟨overrideY, hoverrideY, hv⟩ := Option.bind_eq_some_iff.1 hv
    obtain rfl := Option.some.inj hv
    intro axis
    cases axis with
    | horizontal =>
      exact ⟨readable_of_required hcolumn, readable_of_required hspanX,
        readable_of_optional htargetX, readable_of_optional hoverrideX⟩
    | vertical =>
      exact ⟨readable_of_required hrow, readable_of_required hspanY,
        readable_of_optional htargetY, readable_of_optional hoverrideY⟩
  · intro h
    obtain ⟨⟨column, hcolumn⟩, ⟨spanX, hspanX⟩, htargetX, hoverrideX⟩ := h .horizontal
    obtain ⟨⟨row, hrow⟩, ⟨spanY, hspanY⟩, htargetY, hoverrideY⟩ := h .vertical
    obtain ⟨targetX, htargetX⟩ := exists_optional rfl htargetX
    obtain ⟨targetY, htargetY⟩ := exists_optional rfl htargetY
    obtain ⟨overrideX, hoverrideX⟩ := exists_optional rfl hoverrideX
    obtain ⟨overrideY, hoverrideY⟩ := exists_optional rfl hoverrideY
    let v : Value := .object [("column", column), ("row", row), ("span_x", spanX),
      ("span_y", spanY), ("target_column", targetX), ("target_row", targetY),
      ("column_constraints", overrideX), ("row_constraints", overrideY)]
    refine ⟨v, Option.bind_eq_some_iff.2 ⟨_, hcolumn, ?_⟩⟩
    refine Option.bind_eq_some_iff.2 ⟨_, hrow, ?_⟩
    refine Option.bind_eq_some_iff.2 ⟨_, hspanX, ?_⟩
    refine Option.bind_eq_some_iff.2 ⟨_, hspanY, ?_⟩
    refine Option.bind_eq_some_iff.2 ⟨_, htargetX v "target_column" rfl, ?_⟩
    refine Option.bind_eq_some_iff.2 ⟨_, htargetY v "target_row" rfl, ?_⟩
    refine Option.bind_eq_some_iff.2 ⟨_, hoverrideX v "column_constraints" rfl, ?_⟩
    exact Option.bind_eq_some_iff.2 ⟨_, hoverrideY v "row_constraints" rfl, rfl⟩

theorem readable_entry_iff {e : Entry} :
    Readable e ↔ Readable e.id ∧ ∀ axis, SlotReadable (e.placement.along axis) := by
  rw [← readable_placement_iff, ← readable_pair_iff (p := (e.id, e.placement))]
  constructor
  · rintro ⟨v, hv⟩
    obtain ⟨⟨id, placement⟩, hpair, rfl⟩ := Option.map_eq_some_iff.1 hv
    exact ⟨v, hpair⟩
  · rintro ⟨v, hv⟩
    exact ⟨v, Option.map_eq_some_iff.2 ⟨_, hv, rfl⟩⟩

theorem readable_grid_iff {g : Grid} : Readable g ↔
    (∀ axis, Readable (g.tracks axis) ∧ Readable (g.groups axis)) ∧ Readable g.components := by
  constructor
  · rintro ⟨v, hv⟩
    obtain ⟨columns, hcolumns, hv⟩ := Option.bind_eq_some_iff.1 hv
    obtain ⟨rows, hrows, hv⟩ := Option.bind_eq_some_iff.1 hv
    obtain ⟨columnGroups, hcolumnGroups, hv⟩ := Option.bind_eq_some_iff.1 hv
    obtain ⟨rowGroups, hrowGroups, hv⟩ := Option.bind_eq_some_iff.1 hv
    obtain ⟨components, hcomponents, hv⟩ := Option.bind_eq_some_iff.1 hv
    obtain ⟨canShrink, -, hv⟩ := Option.bind_eq_some_iff.1 hv
    obtain rfl := Option.some.inj hv
    refine ⟨fun axis => ?_, readable_of_defaulted readable_nil hcomponents⟩
    cases axis with
    | horizontal =>
      exact ⟨readable_of_required hcolumns, readable_of_defaulted readable_nil hcolumnGroups⟩
    | vertical => exact ⟨readable_of_required hrows, readable_of_defaulted readable_nil hrowGroups⟩
  · rintro ⟨haxes, components, hcomponents⟩
    obtain ⟨⟨columns, hcolumns⟩, ⟨columnGroups, hcolumnGroups⟩⟩ := haxes .horizontal
    obtain ⟨⟨rows, hrows⟩, ⟨rowGroups, hrowGroups⟩⟩ := haxes .vertical
    obtain ⟨canShrink, hcanShrink⟩ := readable_bool g.canShrink
    refine ⟨.object [("columns", columns), ("rows", rows), ("column_groups", columnGroups),
      ("row_groups", rowGroups), ("components", components), ("can_shrink", canShrink)], ?_⟩
    refine Option.bind_eq_some_iff.2 ⟨_, hcolumns, ?_⟩
    refine Option.bind_eq_some_iff.2 ⟨_, hrows, ?_⟩
    refine Option.bind_eq_some_iff.2 ⟨_, hcolumnGroups, ?_⟩
    refine Option.bind_eq_some_iff.2 ⟨_, hrowGroups, ?_⟩
    refine Option.bind_eq_some_iff.2 ⟨_, hcomponents, ?_⟩
    exact Option.bind_eq_some_iff.2 ⟨_, hcanShrink, rfl⟩

end Persisted

end GridLayout

import GridLayout.Persist.Instances
import GridLayout.Proofs.Grid.Contents
import GridLayout.Proofs.Sizing.Equalization
import GridLayout.Proofs.Track.Specification

/-!
# What a written grid is read as

A value is read back if reading its persisted form gives it again. A number is read back if it has
at most 64 bits, a length and a track if the length is finite without a sign, and everything else if
its parts are: no field is dropped, and none is given its default instead.

* `Persisted.ReadBack`: the property, and `readBack_list`, `readBack_pair` and so on for the forms.
* `readBack_grid`: a grid is read back if its numbers and its lengths are.
-/

namespace GridLayout

open Persisted

namespace Persisted

variable {α β : Type} [Persisted α] [Persisted β]

/-- What is written is read as the same. -/
def ReadBack (a : α) : Prop := decode (encode a) = some a

/-! ## Fields -/

@[simp] theorem lookup_cons (name other : String) (v : Value) (fields : List (String × Value)) :
    Value.lookup name ((other, v) :: fields) =
      if other = name then some v else Value.lookup name fields := by
  by_cases h : other = name <;> simp [Value.lookup, h]

@[simp] theorem lookup_append (name : String) (fields fields' : List (String × Value)) :
    Value.lookup name (fields ++ fields') =
      (Value.lookup name fields).or (Value.lookup name fields') := by
  simp [Value.lookup, List.find?_append, Option.map_or]

@[simp] theorem lookup_optionalField (name other : String) (a : Option α) :
    Value.lookup name (optionalField other a) = if other = name then a.map encode else none := by
  cases a <;> simp [optionalField, Value.lookup]

theorem required_eq {v : Value} {name : String} {a : α}
    (hfield : v.field? name = some (encode a)) (h : ReadBack a) : required v name = some a := by
  rw [required, hfield]
  exact h

/-- A field that is there is not given its default. -/
theorem defaulted_eq {v : Value} {name : String} {a default : α}
    (hfield : v.field? name = some (encode a)) (h : ReadBack a) :
    defaulted v name default = some a := by
  rw [defaulted, hfield]
  exact h

/-- An optional field is read if there is one, and is missing if there is none. -/
theorem optional_eq {v : Value} {name : String} {a : Option α}
    (hfield : v.field? name = a.map encode) (h : ∀ b ∈ a, ReadBack b)
    (hnull : ∀ b : α, encode b ≠ .null) : optional v name = some a := by
  unfold optional
  rcases a with _ | b
  · rw [hfield]
    rfl
  · have hread : decode (encode b) = some b := h b rfl
    rw [hfield]
    simp only [Option.map_some]
    split
    · next heq => simp at heq
    · next heq => exact absurd (Option.some.inj heq) (hnull b)
    · next w _ heq =>
      obtain rfl := Option.some.inj heq
      rw [hread, Option.map_some]

/-! ## Numbers, lists and pairs -/

theorem readBack_bool (b : Bool) : ReadBack b := rfl

theorem readBack_nat {n : Nat} (h : n ≤ maxWritableIndex) : ReadBack n := by
  have hbounds : 0 ≤ (n : Int) ∧ (n : Int) ≤ 18446744073709551615 := by
    have hmax : maxWritableIndex = 18446744073709551615 := by decide
    omega
  change (if 0 ≤ (n : Int) ∧ (n : Int) ≤ 18446744073709551615 then some (n : Int) else none).map
    Int.toNat = some n
  rw [if_pos hbounds, Option.map_some, Int.toNat_natCast]

theorem readBack_list {l : List α} (h : ∀ a ∈ l, ReadBack a) : ReadBack l := by
  change (l.map encode).mapM decode = some l
  induction l with
  | nil => rfl
  | cons a l ih =>
    have ha : decode (encode a) = some a := h a (by simp)
    rw [List.map_cons, List.mapM_cons, ha, ih fun b hb => h b (List.mem_cons_of_mem a hb)]
    rfl

theorem readBack_pair {p : α × β} (ha : ReadBack p.1) (hb : ReadBack p.2) : ReadBack p := by
  obtain ⟨a, b⟩ := p
  change (do return (← decode (encode a), ← decode (encode b))) = some (a, b)
  rw [show decode (encode a) = some a from ha, show decode (encode b) = some b from hb]
  rfl

theorem readBack_id {id : ComponentId} (h : id.value ≤ maxWritableIndex) : ReadBack id := by
  change (decode (encode id.value)).map ComponentId.mk = some id
  rw [show decode (encode id.value) = some id.value from readBack_nat h]
  rfl

/-! ## Names and canonical texts -/

theorem readBack_region (region : BorderRegion) : ReadBack region := by
  cases region <;> rfl

theorem readBack_alignment (alignment : ButtonAlignment) : ReadBack alignment := by
  cases alignment <;> rfl

theorem readBack_length {l : Length} (h : l.value.HasNumeral) : ReadBack l := by
  change (Length.read l.toText.toList).toOption = some l
  rw [Length.read_toText h]
  rfl

theorem readBack_track {t : Track} (h : t.minimum.value.HasNumeral) : ReadBack t := by
  change (Track.read t.toSpec.toList .fill).toOption = some t
  rw [Track.read_toSpec h]
  rfl

theorem readBack_group {group : TrackGroup} (h : ∀ i ∈ group.indices, i ≤ maxWritableIndex) :
    ReadBack group := by
  change (do (TrackGroup.ofList (← decode (encode group.indices))).toOption) = some group
  rw [show decode (encode group.indices) = some group.indices from
    readBack_list fun i hi => readBack_nat (h i hi)]
  change (TrackGroup.ofList group.indices).toOption = some group
  rw [group.ofList_indices]
  rfl

/-! ## Grids -/

/-- A slot of numbers and lengths that are read back. -/
theorem readBack_slot (slot : Slot) (hlengths : ∀ l ∈ slot.lengths, l.value.HasNumeral)
    (hnumbers : ∀ n ∈ slot.numbers, n ≤ maxWritableIndex) :
    ReadBack slot.start ∧ ReadBack slot.span ∧ (∀ target ∈ slot.target, ReadBack target) ∧
      ∀ track ∈ slot.override, ReadBack track := by
  obtain ⟨hstart, hspan, htarget⟩ := Slot.forall_mem_numbers.1 hnumbers
  exact ⟨readBack_nat hstart, readBack_nat hspan, fun target ht => readBack_nat (htarget target ht),
    fun track ht => readBack_track (Slot.forall_mem_lengths.1 hlengths track ht)⟩

/-- A placement has four fields that are always there and four that may be missing. -/
theorem readBack_placement {p : Placement}
    (hlengths : ∀ axis, ∀ l ∈ (p.along axis).lengths, l.value.HasNumeral)
    (hnumbers : ∀ axis, ∀ n ∈ (p.along axis).numbers, n ≤ maxWritableIndex) : ReadBack p := by
  obtain ⟨hstartX, hspanX, htargetX, hoverrideX⟩ :=
    readBack_slot p.horizontal (hlengths .horizontal) (hnumbers .horizontal)
  obtain ⟨hstartY, hspanY, htargetY, hoverrideY⟩ :=
    readBack_slot p.vertical (hlengths .vertical) (hnumbers .vertical)
  have hfields (name : String) : (encode p).field? name = Value.lookup name _ := rfl
  have hnat (n : Nat) : encode n ≠ .null := Value.noConfusion
  have htrack (t : Track) : encode t ≠ .null := Value.noConfusion
  have hcolumn : required (encode p) "column" = some p.horizontal.start :=
    required_eq (by simp [hfields]) hstartX
  have hrow : required (encode p) "row" = some p.vertical.start :=
    required_eq (by simp [hfields]) hstartY
  have hcolumns : required (encode p) "span_x" = some p.horizontal.span :=
    required_eq (by simp [hfields]) hspanX
  have hrows : required (encode p) "span_y" = some p.vertical.span :=
    required_eq (by simp [hfields]) hspanY
  have htargetColumn : optional (encode p) "target_column" = some p.horizontal.target :=
    optional_eq (by simp [hfields]) htargetX hnat
  have htargetRow : optional (encode p) "target_row" = some p.vertical.target :=
    optional_eq (by simp [hfields]) htargetY hnat
  have hownColumn : optional (encode p) "column_constraints" = some p.horizontal.override :=
    optional_eq (by simp [hfields]) hoverrideX htrack
  have hownRow : optional (encode p) "row_constraints" = some p.vertical.override :=
    optional_eq (by simp [hfields]) hoverrideY htrack
  simp only [ReadBack, decode, hcolumn, hrow, hcolumns, hrows, htargetColumn, htargetRow,
    hownColumn, hownRow]
  rfl

theorem readBack_entry {e : Entry} (hlengths : ∀ l ∈ e.lengths, l.value.HasNumeral)
    (hnumbers : ∀ n ∈ e.numbers, n ≤ maxWritableIndex) : ReadBack e := by
  obtain ⟨hid, hplacement⟩ := Entry.forall_mem_numbers.1 hnumbers
  have hpair : ReadBack (e.id, e.placement) :=
    readBack_pair (readBack_id hid)
      (readBack_placement (Entry.forall_mem_lengths.1 hlengths) hplacement)
  change (decode (encode (e.id, e.placement))).map _ = some e
  rw [show decode (encode (e.id, e.placement)) = some (e.id, e.placement) from hpair]
  rfl

/-- A grid is read back, all fields that have defaults included, if its numbers have at most 64 bits
and its lengths are finite without a sign. -/
theorem readBack_grid {g : Grid} (hlengths : ∀ l ∈ g.lengths, l.value.HasNumeral)
    (hnumbers : ∀ n ∈ g.numbers, n ≤ maxWritableIndex) : ReadBack g := by
  obtain ⟨htracks, hentries⟩ := Grid.forall_mem_lengths.1 hlengths
  obtain ⟨hindices, hcells⟩ := Grid.forall_mem_numbers.1 hnumbers
  have htracks (axis : Axis) : ReadBack (g.tracks axis) :=
    readBack_list fun t ht => readBack_track (htracks axis t ht)
  have hgroups (axis : Axis) : ReadBack (g.groups axis) :=
    readBack_list fun group hgroup => readBack_group (hindices axis group hgroup)
  have hentries : ReadBack g.components :=
    readBack_list fun e he => readBack_entry (hentries e he) (hcells e he)
  have hfields (name : String) : (encode g).field? name = Value.lookup name _ := rfl
  have hcolumns : required (encode g) "columns" = some (g.tracks .horizontal) :=
    required_eq (by simp [hfields]) (htracks .horizontal)
  have hrows : required (encode g) "rows" = some (g.tracks .vertical) :=
    required_eq (by simp [hfields]) (htracks .vertical)
  have hcolumnGroups : defaulted (encode g) "column_groups" [] = some (g.groups .horizontal) :=
    defaulted_eq (by simp [hfields]) (hgroups .horizontal)
  have hrowGroups : defaulted (encode g) "row_groups" [] = some (g.groups .vertical) :=
    defaulted_eq (by simp [hfields]) (hgroups .vertical)
  have hcomponents : defaulted (encode g) "components" [] = some g.components :=
    defaulted_eq (by simp [hfields]) hentries
  have hcanShrink : defaulted (encode g) "can_shrink" true = some g.canShrink :=
    defaulted_eq (by simp [hfields]) (readBack_bool _)
  simp only [ReadBack, decode, hcolumns, hrows, hcolumnGroups, hrowGroups, hcomponents, hcanShrink]
  rfl

end Persisted

end GridLayout

import GridLayout.Persist.Instances
import GridLayout.Proofs.Grid.Contents

/-!
# What a grid is written with

The persisted form of a grid is made of booleans, natural numbers, texts, lists and objects alone,
whatever the lengths in it are.

* `Value.IsPlain` holds of the values made so.
* `isPlain_grid`: the form of a grid is plain if its numbers have at most 64 bits.
-/

namespace GridLayout

/-- A value made of booleans, natural numbers of 64 bits, texts, lists, and objects whose fields
have different names. -/
inductive Value.IsPlain : Value → Prop
  | bool (b : Bool) : IsPlain (.bool b)
  | int {n : Int} : 0 ≤ n → n ≤ maxWritableIndex → IsPlain (.int n)
  | text (s : String) : IsPlain (.text s)
  | list {items : List Value} : (∀ v ∈ items, IsPlain v) → IsPlain (.list items)
  | object {fields : List (String × Value)} : (fields.map Prod.fst).Nodup →
    (∀ field ∈ fields, IsPlain field.2) → IsPlain (.object fields)

namespace Persisted

variable {α β : Type} [Persisted α] [Persisted β]

theorem isPlain_nat {n : Nat} (h : n ≤ maxWritableIndex) : (encode n).IsPlain :=
  .int (Int.natCast_nonneg n) (Int.ofNat_le.2 h)

theorem isPlain_list {l : List α} (h : ∀ a ∈ l, (encode a).IsPlain) : (encode l).IsPlain := by
  refine .list fun v hv => ?_
  obtain ⟨a, ha, rfl⟩ := List.mem_map.1 hv
  exact h a ha

theorem isPlain_pair {p : α × β} (ha : (encode p.1).IsPlain) (hb : (encode p.2).IsPlain) :
    (encode p).IsPlain := by
  refine .list fun v hv => ?_
  simp only [List.mem_cons, List.not_mem_nil, or_false] at hv
  rcases hv with rfl | rfl
  · exact ha
  · exact hb

theorem isPlain_of_mem_optionalField {name : String} {a : Option α}
    (h : ∀ b ∈ a, (encode b).IsPlain) {field : String × Value}
    (hfield : field ∈ optionalField name a) : field.2.IsPlain := by
  rcases a with _ | b
  · cases hfield
  · obtain rfl := List.mem_singleton.1 hfield
    exact h b rfl

theorem map_fst_optionalField (name : String) (a : Option α) :
    (optionalField name a).map Prod.fst = if a.isSome then [name] else [] := by
  cases a <;> rfl

theorem isPlain_placement {p : Placement}
    (h : ∀ axis, ∀ n ∈ (p.along axis).numbers, n ≤ maxWritableIndex) : (encode p).IsPlain := by
  obtain ⟨hstartX, hspanX, htargetX⟩ := Slot.forall_mem_numbers.1 (h .horizontal)
  obtain ⟨hstartY, hspanY, htargetY⟩ := Slot.forall_mem_numbers.1 (h .vertical)
  refine .object ?_ ?_
  · simp only [List.map_append, List.map_cons, List.map_nil, map_fst_optionalField]
    split <;> split <;> split <;> split <;> decide
  · simp only [List.forall_mem_append, List.forall_mem_cons]
    exact ⟨⟨⟨⟨⟨isPlain_nat hstartX, isPlain_nat hstartY, isPlain_nat hspanX, isPlain_nat hspanY,
      by simp⟩,
      fun _ => isPlain_of_mem_optionalField fun target ht => isPlain_nat (htargetX target ht)⟩,
      fun _ => isPlain_of_mem_optionalField fun target ht => isPlain_nat (htargetY target ht)⟩,
      fun _ => isPlain_of_mem_optionalField fun _ _ => .text _⟩,
      fun _ => isPlain_of_mem_optionalField fun _ _ => .text _⟩

/-- The form of a grid is plain. -/
theorem isPlain_grid {g : Grid} (h : ∀ n ∈ g.numbers, n ≤ maxWritableIndex) :
    (encode g).IsPlain := by
  obtain ⟨hindices, hentries⟩ := Grid.forall_mem_numbers.1 h
  have htracks (axis : Axis) : (encode (g.tracks axis)).IsPlain :=
    isPlain_list fun _ _ => .text _
  have hgroups (axis : Axis) : (encode (g.groups axis)).IsPlain :=
    isPlain_list fun group hgroup =>
      isPlain_list fun i hi => isPlain_nat (hindices axis group hgroup i hi)
  have hcomponents : (encode g.components).IsPlain := by
    refine isPlain_list fun e he => ?_
    obtain ⟨hid, hplacement⟩ := Entry.forall_mem_numbers.1 (hentries e he)
    exact isPlain_pair (p := (e.id, e.placement)) (isPlain_nat hid) (isPlain_placement hplacement)
  refine .object (by simp) ?_
  simp only [List.forall_mem_cons]
  exact ⟨htracks _, htracks _, hgroups _, hgroups _, hcomponents, .bool _, by simp⟩

end Persisted

end GridLayout

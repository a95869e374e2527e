import Mathlib.Data.List.Nodup
import GridLayout.Proofs.Grid.Fits

/-!
# A classification is an ordered partition

Along each axis a classification has every place of the registry in exactly one of its lists: in
that of the track where the component starts if it covers a single one, and else in the list of the
components that span several. All lists ascend.

* `Grid.mem_placesOf` and `Grid.pairwise_placesOf`: what a scan for a property finds, and in which
  order.
* `Classification.isPartition_of_classify`: the classification of a grid is an ordered partition.
-/

namespace GridLayout

namespace Grid

variable {p : Entry → Bool} {entries : List Entry}

theorem mem_placesOf {place : Nat} :
    place ∈ placesOf p entries ↔ ∃ e, entries[place]? = some e ∧ p e = true := by
  simp only [placesOf, List.mem_map, List.mem_filter, Prod.exists, List.mem_zipIdx_iff_getElem?]
  constructor
  · rintro ⟨e, _, ⟨hat, hp⟩, rfl⟩
    exact ⟨e, hat, hp⟩
  · rintro ⟨e, hat, hp⟩
    exact ⟨e, place, ⟨hat, hp⟩, rfl⟩

/-- A scan finds the places in ascending order. -/
theorem pairwise_placesOf : (placesOf p entries).Pairwise (· < ·) := by
  have hsublist : (placesOf p entries).Sublist (entries.zipIdx.map Prod.snd) :=
    List.filter_sublist.map Prod.snd
  rw [List.zipIdx_map_snd] at hsublist
  exact (List.pairwise_lt_range' _ Nat.one_pos).sublist hsublist

end Grid

/-- Every place of the registry is in exactly one list of an axis, and all lists ascend. -/
structure Classification.IsPartition (c : Classification) (g : Grid) : Prop where
  length_eq : ∀ axis, (c.single.along axis).length = g.count axis
  mem_singleAt_iff : ∀ axis i place, place ∈ c.singleAt axis i ↔
    ∃ e, g.components[place]? = some e ∧ (e.placement.along axis).span = 1 ∧
      (e.placement.along axis).start = i
  mem_spanning_iff : ∀ axis place, place ∈ c.spanning.along axis ↔
    ∃ e, g.components[place]? = some e ∧ 1 < (e.placement.along axis).span
  singleAt_ascends : ∀ axis i, (c.singleAt axis i).Pairwise (· < ·)
  spanning_ascends : ∀ axis, (c.spanning.along axis).Pairwise (· < ·)
  perm_range : ∀ axis, ((c.single.along axis).flatten ++ c.spanning.along axis).Perm
    (List.range g.components.length)

namespace Classification

variable {c : Classification} {g : Grid}

theorem singleAt_eq_getElem (axis : Axis) {i : Nat} (h : i < (c.single.along axis).length) :
    c.singleAt axis i = (c.single.along axis)[i] := by
  rw [singleAt, List.getElem?_eq_getElem h, Option.getD_some]

theorem singleAt_eq_nil (axis : Axis) {i : Nat} (h : (c.single.along axis).length ≤ i) :
    c.singleAt axis i = [] := by
  rw [singleAt, List.getElem?_eq_none h, Option.getD_none]

theorem mem_flatten_single_iff {axis : Axis} {place : Nat} :
    place ∈ (c.single.along axis).flatten ↔ ∃ i, place ∈ c.singleAt axis i := by
  rw [List.mem_flatten]
  constructor
  · rintro ⟨places, hplaces, hplace⟩
    obtain ⟨i, hi, rfl⟩ := List.mem_iff_getElem.1 hplaces
    exact ⟨i, by rwa [singleAt_eq_getElem axis hi]⟩
  · rintro ⟨i, hplace⟩
    rcases Nat.lt_or_ge i (c.single.along axis).length with hi | hi
    · rw [singleAt_eq_getElem axis hi] at hplace
      exact ⟨_, List.getElem_mem hi, hplace⟩
    · rw [singleAt_eq_nil axis hi] at hplace
      cases hplace

section

variable {axis : Axis}
  (hsingle : ∀ i place, place ∈ c.singleAt axis i ↔
    ∃ e, g.components[place]? = some e ∧ (e.placement.along axis).span = 1 ∧
      (e.placement.along axis).start = i)
  (hspanning : ∀ place, place ∈ c.spanning.along axis ↔
    ∃ e, g.components[place]? = some e ∧ 1 < (e.placement.along axis).span)

include hsingle

/-- A component of a single track starts in one track only. -/
theorem nodup_flatten_single (hascends : ∀ i, (c.singleAt axis i).Pairwise (· < ·)) :
    (c.single.along axis).flatten.Nodup := by
  rw [List.nodup_flatten]
  constructor
  · intro places hplaces
    obtain ⟨i, hi, rfl⟩ := List.mem_iff_getElem.1 hplaces
    rw [← singleAt_eq_getElem axis hi]
    exact (hascends i).imp Nat.ne_of_lt
  · rw [List.pairwise_iff_getElem]
    intro i j hi hj hlt place hplace hplace'
    rw [← singleAt_eq_getElem axis hi] at hplace
    rw [← singleAt_eq_getElem axis hj] at hplace'
    obtain ⟨e, hat, -, hstart⟩ := (hsingle i place).1 hplace
    obtain ⟨e', hat', -, hstart'⟩ := (hsingle j place).1 hplace'
    obtain rfl := Option.some.inj (hat.symm.trans hat')
    omega

include hspanning

/-- Every place of the registry is in the lists of the axis, and only once. -/
theorem perm_range_of_mem_iff (hascends : ∀ i, (c.singleAt axis i).Pairwise (· < ·))
    (hspanningAscends : (c.spanning.along axis).Pairwise (· < ·))
    (hpos : ∀ e ∈ g.components, 0 < (e.placement.along axis).span) :
    ((c.single.along axis).flatten ++ c.spanning.along axis).Perm
      (List.range g.components.length) := by
  have hnodup : ((c.single.along axis).flatten ++ c.spanning.along axis).Nodup := by
    refine List.nodup_append'.2
      ⟨nodup_flatten_single hsingle hascends, hspanningAscends.imp Nat.ne_of_lt, ?_⟩
    intro place hplace hplace'
    obtain ⟨i, hplace⟩ := mem_flatten_single_iff.1 hplace
    obtain ⟨e, hat, hone, -⟩ := (hsingle i place).1 hplace
    obtain ⟨e', hat', hseveral⟩ := (hspanning place).1 hplace'
    obtain rfl := Option.some.inj (hat.symm.trans hat')
    omega
  refine (List.perm_ext_iff_of_nodup hnodup List.nodup_range).2 fun place => ?_
  rw [List.mem_append, mem_flatten_single_iff, hspanning, List.mem_range]
  simp only [hsingle]
  constructor
  · rintro (⟨_, e, hat, -⟩ | ⟨e, hat, -⟩)
    · exact (List.getElem?_eq_some_iff.1 hat).1
    · exact (List.getElem?_eq_some_iff.1 hat).1
  · intro hlt
    have hat := List.getElem?_eq_getElem hlt
    rcases Nat.lt_or_eq_of_le (hpos _ (List.getElem_mem hlt)) with hseveral | hone
    · exact .inr ⟨_, hat, hseveral⟩
    · exact .inl ⟨_, _, hat, hone.symm, rfl⟩

end

/-- Sorting components that fit makes an ordered partition. -/
theorem Sorts.isPartition (h : c.Sorts g g.components) (hfits : ∀ e ∈ g.components, e.Fits g) :
    c.IsPartition g := by
  have hfit {place : Nat} {e : Entry} (hat : g.components[place]? = some e) : e.Fits g :=
    hfits e (List.mem_of_getElem? hat)
  have hsingle (axis : Axis) (i place : Nat) : place ∈ c.singleAt axis i ↔
      ∃ e, g.components[place]? = some e ∧ (e.placement.along axis).span = 1 ∧
        (e.placement.along axis).start = i := by
    rcases Nat.lt_or_ge i (g.count axis) with hi | hi
    · simp [h.single axis i hi, Grid.mem_placesOf, Entry.isAlone]
    · rw [singleAt_eq_nil axis (by rwa [h.length])]
      constructor
      · exact fun hmem => absurd hmem List.not_mem_nil
      · rintro ⟨e, hat, -, rfl⟩
        exact absurd ((hfit hat).start_lt axis) (Nat.not_lt_of_le hi)
  have hspanning (axis : Axis) (place : Nat) : place ∈ c.spanning.along axis ↔
      ∃ e, g.components[place]? = some e ∧ 1 < (e.placement.along axis).span := by
    rw [h.spanning, Grid.mem_placesOf]
    refine exists_congr fun e => and_congr_right fun hat => ?_
    have hpos := (hfit hat).span_pos axis
    simp only [Entry.isSpanning, bne_iff_ne]
    omega
  have hascends (axis : Axis) (i : Nat) : (c.singleAt axis i).Pairwise (· < ·) := by
    rcases Nat.lt_or_ge i (g.count axis) with hi | hi
    · rw [h.single axis i hi]
      exact Grid.pairwise_placesOf
    · rw [singleAt_eq_nil axis (by rwa [h.length])]
      exact .nil
  have hspanningAscends (axis : Axis) : (c.spanning.along axis).Pairwise (· < ·) := by
    rw [h.spanning]
    exact Grid.pairwise_placesOf
  exact ⟨h.length, hsingle, hspanning, hascends, hspanningAscends, fun axis =>
    perm_range_of_mem_iff (hsingle axis) (hspanning axis) (hascends axis) (hspanningAscends axis)
      fun e he => (hfits e he).span_pos axis⟩

/-- **The classification of a grid is an ordered partition** of its registry along each axis. -/
theorem isPartition_of_classify (h : g.classify = .ok c) : c.IsPartition g := by
  have hcheck : g.check = .ok () := by
    rw [← Grid.classify_map_unit, h]
    rfl
  exact (Grid.sorts_of_classify h).isPartition fun e he => Grid.fits_of_check hcheck he

end Classification

end GridLayout

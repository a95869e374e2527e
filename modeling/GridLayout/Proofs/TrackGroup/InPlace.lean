import Mathlib.Order.Bounds.Defs
import GridLayout.Proofs.Sizing.Equalization

/-!
# Groups applied in place

A group is applied to a list of sizes, each member of which is first read and then written. Here the
same is written down as a computation that changes the sizes step by step, with every access
checked. It leaves nothing half done: it fails before the first write, and it has all members in
range from then on.

* `TrackGroup.runOn_applyInPlace`: step by step as at once, and no size has changed in a failure.
* `TrackGroup.Equalized`: what becomes of the sizes if all members are in range.
* `getD_equalizeAll_of_mem`: groups that are disjoint do not notice each other, so they may be
  applied in every order (`equalizeAll_perm`), and twice (`equalizeAll_equalizeAll`).
* `TrackGroup.set_semantics`: a group is a set, and applying it is exact.
-/

namespace GridLayout

/-! ## Sizes in place -/

/-- A computation that changes sizes in place. It may fail, which keeps the sizes as they are then,
and it has no outcome if it reads or writes outside of them. -/
abbrev InPlace : Type → Type := ExceptT LayoutError (StateT (List Int) Option)

namespace InPlace

variable {α β : Type}

/-- The outcome of the computation on the sizes, and the sizes afterwards. -/
def runOn (f : InPlace α) (sizes : List Int) : Option (Except LayoutError α × List Int) :=
  f.run.run sizes

/-- The size at an index, which must be in range. -/
def read (i : Nat) : InPlace Int :=
  ExceptT.mk fun sizes => sizes[i]?.map fun size => (.ok size, sizes)

/-- Set the size at an index, which must be in range. -/
def write (size : Int) (i : Nat) : InPlace Unit :=
  ExceptT.mk fun sizes => if i < sizes.length then some (.ok (), sizes.set i size) else none

theorem runOn_pure (a : α) (sizes : List Int) :
    (pure a : InPlace α).runOn sizes = some (.ok a, sizes) := rfl

theorem runOn_bind (f : InPlace α) (k : α → InPlace β) (sizes : List Int) :
    (f >>= k).runOn sizes = match f.runOn sizes with
      | some (.ok a, sizes') => (k a).runOn sizes'
      | some (.error fault, sizes') => some (.error fault, sizes')
      | none => none := by
  change (f.run.run sizes >>= fun p => (ExceptT.bindCont k p.1).run p.2) = _
  unfold runOn
  rcases f.run.run sizes with _ | ⟨_ | _, _⟩ <;> rfl

theorem runOn_read {i : Nat} {sizes : List Int} (h : i < sizes.length) :
    (read i).runOn sizes = some (.ok (sizes.getD i 0), sizes) := by
  change sizes[i]?.map _ = _
  rw [getElem?_eq_some_getD h, Option.map_some]

theorem runOn_write (size : Int) {i : Nat} {sizes : List Int} (h : i < sizes.length) :
    (write size i).runOn sizes = some (.ok (), sizes.set i size) := if_pos h

/-- Reading changes nothing. -/
theorem runOn_mapM_read {indices : List Nat} {sizes : List Int}
    (h : ∀ i ∈ indices, i < sizes.length) :
    (indices.mapM read).runOn sizes = some (.ok (indices.map fun i => sizes.getD i 0), sizes) := by
  induction indices with
  | nil => rfl
  | cons i indices ih =>
    have hrest := ih fun j hj => h j (List.mem_cons_of_mem i hj)
    simp only [List.mapM_cons, runOn_bind, runOn_read (h i (by simp)), hrest, runOn_pure,
      List.map_cons]

/-- Writing keeps all indices in range. -/
theorem runOn_forM_write (size : Int) {indices : List Nat} {sizes : List Int}
    (h : ∀ i ∈ indices, i < sizes.length) :
    (forM indices (write size)).runOn sizes =
      some (.ok (), indices.foldl (fun sizes i => sizes.set i size) sizes) := by
  induction indices generalizing sizes with
  | nil => rfl
  | cons i indices ih =>
    have hrest : ∀ j ∈ indices, j < (sizes.set i size).length := by
      intro j hj
      simpa using h j (List.mem_cons_of_mem i hj)
    simp only [List.forM_cons, runOn_bind, runOn_write size (h i (by simp)), ih hrest,
      List.foldl_cons]

end InPlace

namespace TrackGroup

/-- Give every member the size of the largest one, in place; nothing if an index has no track. -/
def applyInPlace (group : TrackGroup) : InPlace Unit := do
  let count := (← get).length
  if group.maxIndex < count then
    let members ← group.indices.mapM InPlace.read
    forM group.indices (InPlace.write (members.max?.getD 0))
  else throw (.outOfBounds group.maxIndex count)

variable {group : TrackGroup} {sizes : List Int}

theorem maxIndex_lt_iff {count : Nat} :
    group.maxIndex < count ↔ ∀ i ∈ group.indices, i < count :=
  ⟨fun h _ hi => (group.le_maxIndex hi).trans_lt h, fun h => h _ group.maxIndex_mem⟩

/-- **Step by step as at once**: in place the sizes become what `apply` makes of them, and if it
fails, none has changed. -/
theorem runOn_applyInPlace (group : TrackGroup) (sizes : List Int) :
    group.applyInPlace.runOn sizes = some (match group.apply sizes with
      | .ok sizes' => (.ok (), sizes')
      | .error fault => (.error fault, sizes)) := by
  have hget : (get : InPlace (List Int)).runOn sizes = some (.ok sizes, sizes) := rfl
  unfold applyInPlace apply
  rw [InPlace.runOn_bind, hget]
  by_cases hfit : group.maxIndex < sizes.length
  · have hin := maxIndex_lt_iff.1 hfit
    simp only [hfit, if_true, InPlace.runOn_bind, InPlace.runOn_mapM_read hin,
      InPlace.runOn_forM_write _ hin]
    rfl
  · simp only [hfit, if_false]
    rfl

/-! ## What becomes of the sizes -/

/-- The sizes of the members. -/
def sizesOf (group : TrackGroup) (sizes : List Int) : Set Int :=
  {size | ∃ i ∈ group.indices, sizes[i]? = some size}

/-- Every member has the largest of the sizes that the members had before, and all other sizes are
the same as before. -/
structure Equalized (group : TrackGroup) (before after : List Int) : Prop where
  length_eq : after.length = before.length
  member : ∀ i ∈ group.indices, ∃ size, after[i]? = some size ∧
    IsGreatest (group.sizesOf before) size
  other : ∀ i, i ∉ group.indices → after[i]? = before[i]?

/-- The largest size is the greatest of the sizes of the members. -/
theorem isGreatest_largest (h : group.maxIndex < sizes.length) :
    IsGreatest (group.sizesOf sizes) (group.largest sizes) := by
  have hin := maxIndex_lt_iff.1 h
  obtain ⟨⟨i, hi, heq⟩, hle⟩ := group.largest_spec sizes
  constructor
  · exact ⟨i, hi, heq ▸ getElem?_eq_some_getD (hin i hi)⟩
  · rintro size ⟨j, hj, hat⟩
    rw [getElem?_eq_some_getD (hin j hj)] at hat
    exact Option.some.inj hat ▸ hle j hj

theorem getElem?_eq_of_getD_eq {before after : List Int} (hlen : after.length = before.length)
    {i : Nat} (h : after.getD i 0 = before.getD i 0) : after[i]? = before[i]? := by
  by_cases hi : i < before.length
  · rw [getElem?_eq_some_getD hi, getElem?_eq_some_getD (hlen.symm ▸ hi), h]
  · rw [List.getElem?_eq_none (by omega), List.getElem?_eq_none (by omega)]

theorem equalized_equalize (h : group.maxIndex < sizes.length) :
    group.Equalized sizes (group.equalize sizes) := by
  have hgrown := grownAt_equalize h
  refine ⟨hgrown.length_eq, fun i hi => ⟨_, ?_, isGreatest_largest h⟩, fun i hi => ?_⟩
  · have hlt : i < (group.equalize sizes).length :=
      hgrown.length_eq.symm ▸ maxIndex_lt_iff.1 h i hi
    rw [getElem?_eq_some_getD hlt, getD_equalize h, if_pos hi]
  · exact getElem?_eq_of_getD_eq hgrown.length_eq (hgrown.eq i hi)

end TrackGroup

/-! ## Disjoint groups -/

/-- The groups have no member in common. -/
def TrackGroup.Disjoint (a b : TrackGroup) : Prop := ∀ i ∈ a.indices, i ∉ b.indices

instance : Std.Symm TrackGroup.Disjoint := ⟨fun _ _ h i hb ha => h i ha hb⟩

instance (a b : TrackGroup) : Decidable (a.Disjoint b) :=
  inferInstanceAs (Decidable (∀ i ∈ a.indices, i ∉ b.indices))

variable {groups : List TrackGroup} {sizes : List Int}

/-- Where no member has changed its size the largest one is the same. -/
theorem TrackGroup.largest_congr {group : TrackGroup} {sizes' : List Int}
    (h : ∀ i ∈ group.indices, sizes'.getD i 0 = sizes.getD i 0) :
    group.largest sizes' = group.largest sizes :=
  le_antisymm (largest_le_largest fun i hi => (h i hi).le)
    (largest_le_largest fun i hi => (h i hi).ge)

/-- **Each of several disjoint groups ends at its own old maximum.** -/
theorem getD_equalizeAll_of_mem (hfit : GroupsFit groups sizes.length)
    (hdisjoint : groups.Pairwise TrackGroup.Disjoint) {group : TrackGroup} (hgroup : group ∈ groups)
    {i : Nat} (hi : i ∈ group.indices) :
    (equalizeAll groups sizes).getD i 0 = group.largest sizes := by
  induction groups generalizing sizes with
  | nil => simp at hgroup
  | cons first groups ih =>
    have hfirst := hfit first (by simp)
    have hlen := (TrackGroup.grownAt_equalize hfirst).length_eq
    obtain ⟨hapart, hrest⟩ := List.pairwise_cons.1 hdisjoint
    change (equalizeAll groups (first.equalize sizes)).getD i 0 = _
    rcases List.mem_cons.1 hgroup with rfl | hgroup
    · -- the later groups leave the members of the first one alone
      have hnone : ¬∃ other ∈ groups, i ∈ other.indices := fun ⟨other, hother, hmem⟩ =>
        hapart other hother i hi hmem
      rw [(grownAt_equalizeAll (hlen.symm ▸ hfit.tail)).eq i hnone, TrackGroup.getD_equalize hfirst,
        if_pos hi]
    · -- the first group has left the members of the later one alone
      rw [ih (hlen.symm ▸ hfit.tail) hrest hgroup]
      refine TrackGroup.largest_congr fun j hj => ?_
      rw [TrackGroup.getD_equalize hfirst, if_neg fun hmem => hapart group hgroup j hmem hj]

/-- Groups that are disjoint may be applied in every order. -/
theorem equalizeAll_perm {groups' : List TrackGroup} (hfit : GroupsFit groups sizes.length)
    (hdisjoint : groups.Pairwise TrackGroup.Disjoint) (hperm : groups'.Perm groups) :
    equalizeAll groups' sizes = equalizeAll groups sizes := by
  have hfit' : GroupsFit groups' sizes.length := fun group hgroup =>
    hfit group (hperm.mem_iff.1 hgroup)
  have hdisjoint' : groups'.Pairwise TrackGroup.Disjoint :=
    (hperm.pairwise_iff fun h => symm_of TrackGroup.Disjoint h).2 hdisjoint
  have hgrown := grownAt_equalizeAll hfit
  have hgrown' := grownAt_equalizeAll hfit'
  refine eq_of_getD_eq (hgrown'.length_eq.trans hgrown.length_eq.symm) fun i => ?_
  by_cases hmember : ∃ group ∈ groups, i ∈ group.indices
  · obtain ⟨group, hgroup, hi⟩ := hmember
    rw [getD_equalizeAll_of_mem hfit hdisjoint hgroup hi,
      getD_equalizeAll_of_mem hfit' hdisjoint' (hperm.mem_iff.2 hgroup) hi]
  · have hmember' : ¬∃ group ∈ groups', i ∈ group.indices := by
      simpa only [hperm.mem_iff] using hmember
    rw [hgrown.eq i hmember, hgrown'.eq i hmember']

/-- Groups that are disjoint change nothing when they are applied again. -/
theorem equalizeAll_equalizeAll (hfit : GroupsFit groups sizes.length)
    (hdisjoint : groups.Pairwise TrackGroup.Disjoint) :
    equalizeAll groups (equalizeAll groups sizes) = equalizeAll groups sizes := by
  have hlen := (grownAt_equalizeAll hfit).length_eq
  have hfit' : GroupsFit groups (equalizeAll groups sizes).length := hlen.symm ▸ hfit
  have hgrown := grownAt_equalizeAll hfit'
  refine eq_of_getD_eq hgrown.length_eq fun i => ?_
  by_cases hmember : ∃ group ∈ groups, i ∈ group.indices
  · obtain ⟨group, hgroup, hi⟩ := hmember
    -- all members have one size by now, which is the largest
    have hshared : ∀ j ∈ group.indices,
        (equalizeAll groups sizes).getD j 0 = group.largest sizes := fun j hj =>
      getD_equalizeAll_of_mem hfit hdisjoint hgroup hj
    obtain ⟨⟨j, hj, heq⟩, -⟩ := group.largest_spec (equalizeAll groups sizes)
    rw [getD_equalizeAll_of_mem hfit' hdisjoint hgroup hi, heq, hshared j hj, hshared i hi]
  · exact hgrown.eq i hmember

/-! ## Sets of tracks -/

namespace TrackGroup

/-- What several disjoint groups in range make of the sizes: in every order the same, each group at
its own old maximum and all else as before, and nothing more when they are applied again. -/
structure AllEqualized (groups : List TrackGroup) (before after : List Int) : Prop where
  length_eq : after.length = before.length
  apply_eq : ∀ groups', groups'.Perm groups → Grid.applyGroups groups' before = .ok after
  apply_again : ∀ groups', groups'.Perm groups → Grid.applyGroups groups' after = .ok after
  member : ∀ group ∈ groups, ∀ i ∈ group.indices, ∃ size, after[i]? = some size ∧
    IsGreatest (group.sizesOf before) size
  other : ∀ i, (∀ group ∈ groups, i ∉ group.indices) → after[i]? = before[i]?

theorem allEqualized_equalizeAll (hfit : GroupsFit groups sizes.length)
    (hdisjoint : groups.Pairwise TrackGroup.Disjoint) :
    AllEqualized groups sizes (equalizeAll groups sizes) := by
  have hgrown := grownAt_equalizeAll hfit
  have hfit' {groups' : List TrackGroup} (hperm : groups'.Perm groups) :
      GroupsFit groups' sizes.length := fun group hgroup => hfit group (hperm.mem_iff.1 hgroup)
  refine ⟨hgrown.length_eq, fun groups' hperm => ?_, fun groups' hperm => ?_,
    fun group hgroup i hi => ⟨_, ?_, isGreatest_largest (hfit group hgroup)⟩, fun i hi => ?_⟩
  · exact applyGroups_eq_ok_iff.2 ⟨hfit' hperm, (equalizeAll_perm hfit hdisjoint hperm).symm⟩
  · have hagain := equalizeAll_perm (hgrown.length_eq.symm ▸ hfit) hdisjoint hperm
    refine applyGroups_eq_ok_iff.2 ⟨hgrown.length_eq.symm ▸ hfit' hperm, ?_⟩
    rw [hagain, equalizeAll_equalizeAll hfit hdisjoint]
  · have hlt : i < (equalizeAll groups sizes).length :=
      hgrown.length_eq.symm ▸ maxIndex_lt_iff.1 (hfit group hgroup) i hi
    rw [getElem?_eq_some_getD hlt, getD_equalizeAll_of_mem hfit hdisjoint hgroup hi]
  · exact getElem?_eq_of_getD_eq hgrown.length_eq
      (hgrown.eq i fun ⟨group, hgroup, hmem⟩ => hi group hgroup hmem)

/-- **Groups are sets, and applying them is exact.** A list makes a group if it has two entries or
more and none of them twice; two lists make one group if they have the same entries; and every group
is made again from its indices, and from its text if the indices can be written. Applying a group
fails if an index is out of range, with all sizes as they were; otherwise it sets every member to
the largest of the members' sizes, and nothing else. Disjoint groups in range may be applied in
every order, and again. -/
theorem set_semantics :
    (∀ l, (∃ group, ofList l = .ok group) ↔ 2 ≤ l.length ∧ l.Nodup) ∧
    (∀ l l' a b, ofList l = .ok a → ofList l' = .ok b → (a = b ↔ ∀ i, i ∈ l ↔ i ∈ l')) ∧
    (∀ group : TrackGroup, ofList group.indices = .ok group ∧
      ((∀ i ∈ group.indices, i ≤ maxWritableIndex) → ofText group.toText = .ok group)) ∧
    (∀ (group : TrackGroup) sizes, (∃ i ∈ group.indices, sizes.length ≤ i) →
      ∃ fault, group.apply sizes = .error fault ∧
        group.applyInPlace.runOn sizes = some (.error fault, sizes)) ∧
    (∀ (group : TrackGroup) sizes, (∀ i ∈ group.indices, i < sizes.length) →
      ∃ sizes', group.apply sizes = .ok sizes' ∧
        group.applyInPlace.runOn sizes = some (.ok (), sizes') ∧ group.Equalized sizes sizes') ∧
    ∀ (groups : List TrackGroup) sizes, groups.Pairwise TrackGroup.Disjoint →
      (∀ group ∈ groups, ∀ i ∈ group.indices, i < sizes.length) →
      ∃ sizes', AllEqualized groups sizes sizes' := by
  refine ⟨fun l => exists_ofList_iff, fun l l' a b => ofList_eq_iff, fun group =>
    ⟨group.ofList_indices, ofText_toText⟩, fun group sizes hout => ?_, fun group sizes hin => ?_,
    fun groups sizes hdisjoint hin => ?_⟩
  · obtain ⟨i, hi, hle⟩ := hout
    have hnot : ¬group.maxIndex < sizes.length := fun hfit =>
      absurd (maxIndex_lt_iff.1 hfit i hi) (Nat.not_lt_of_le hle)
    have happly : group.apply sizes = .error (.outOfBounds group.maxIndex sizes.length) :=
      if_neg hnot
    exact ⟨_, happly, by rw [runOn_applyInPlace, happly]⟩
  · have hfit := maxIndex_lt_iff.2 hin
    have happly : group.apply sizes = .ok (group.equalize sizes) := if_pos hfit
    exact ⟨_, happly, by rw [runOn_applyInPlace, happly], equalized_equalize hfit⟩
  · have hfit : GroupsFit groups sizes.length := fun group hgroup =>
      maxIndex_lt_iff.2 (hin group hgroup)
    exact ⟨_, allEqualized_equalizeAll hfit hdisjoint⟩

/-- The first, the third and the fifth track. -/
def evens : TrackGroup := ⟨[0, 2, 4], by decide, by decide⟩

/-- The second and the fourth track. -/
def odds : TrackGroup := ⟨[1, 3], by decide, by decide⟩

/-- Two groups that lie between each other, on sizes some of which are negative. -/
theorem set_semantics_evens_odds :
    (∃ group, ofList [4, 0, 2] = .ok group) ∧ ofText evens.toText = .ok evens ∧
      (∃ fault, odds.apply [-4, 7, -1] = .error fault ∧
        odds.applyInPlace.runOn [-4, 7, -1] = some (.error fault, [-4, 7, -1])) ∧
      (∃ sizes', evens.apply [-4, 7, -1, 3, -2] = .ok sizes' ∧
        evens.applyInPlace.runOn [-4, 7, -1, 3, -2] = some (.ok (), sizes') ∧
        evens.Equalized [-4, 7, -1, 3, -2] sizes') ∧
      [evens, odds].Pairwise TrackGroup.Disjoint ∧
      ∃ sizes', AllEqualized [evens, odds] [-4, 7, -1, 3, -2] sizes' := by
  obtain ⟨hlist, -, hback, hout, hin, hall⟩ := set_semantics
  have hdisjoint : [evens, odds].Pairwise TrackGroup.Disjoint := by decide
  exact ⟨(hlist [4, 0, 2]).2 (by decide), (hback evens).2 (by decide +kernel),
    hout odds _ ⟨3, by decide, by decide⟩, hin evens _ (by decide), hdisjoint,
    hall [evens, odds] _ hdisjoint (by decide)⟩

end TrackGroup

end GridLayout

import GridLayout.Proofs.Grid.Safety

/-!
# The components of a grid as an ordered map

The components of a grid are a map from names to placements that remembers the order in which they
joined. What it holds depends on the history alone: a component has the placement that it was given
last unless it was taken out since, and its rank is decided when it joins and not when it is moved.
Start cells are only told apart when the placements are checked; from then on each cell has at most
one component that starts in it.

* `Operation.PlacedAt`, `Operation.IsPresent` and `Operation.JoinedAt` say of a history where a
  component is, whether it is there, and since which operation.
* `Grid.Registers` is the invariant: the components of a grid and its history agree.
* `CachedGrid.registry_exact`: all of it for grids that were created empty, whatever is asked of
  them in between.
-/

namespace GridLayout

/-! ## What a history says -/

namespace Operation

/-- The operation takes the component out, if it is there. -/
def Dismisses (id : ComponentId) : Operation → Prop
  | remove id' => id' = id
  | clear => True
  | setTrack .. | addGroup .. | setCanShrink _ | add .. | flush | copy | ask _ => False

/-- The operation takes the component out or gives it a placement. -/
def Concerns (id : ComponentId) (op : Operation) : Prop := op.Dismisses id ∨ ∃ p, op = add id p

/-- The component was given the placement, and nothing after that was about it. -/
def PlacedAt (ops : List Operation) (id : ComponentId) (p : Placement) : Prop :=
  ∃ before after, ops = before ++ add id p :: after ∧ ∀ op ∈ after, ¬op.Concerns id

/-- The component has a placement. -/
def IsPresent (ops : List Operation) (id : ComponentId) : Prop := ∃ p, PlacedAt ops id p

/-- The component was absent before the operation at the index, which added it, and has been
present since. -/
structure JoinedAt (ops : List Operation) (id : ComponentId) (n : Nat) : Prop where
  add : ∃ p, ops[n]? = some (add id p)
  absent : ¬IsPresent (ops.take n) id
  present : ∀ k, n < k → k ≤ ops.length → IsPresent (ops.take k) id

/-- The first component joined before the second one did. -/
def JoinsBefore (ops : List Operation) (id id' : ComponentId) : Prop :=
  ∃ m n, JoinedAt ops id m ∧ JoinedAt ops id' n ∧ m < n

variable {ops : List Operation} {op : Operation} {id : ComponentId} {p : Placement}

theorem not_placedAt_nil : ¬PlacedAt [] id p := by
  rintro ⟨before, after, h, -⟩
  simp at h

/-- The last operation decides, if it is about the component. -/
theorem placedAt_concat :
    PlacedAt (ops ++ [op]) id p ↔ op = add id p ∨ PlacedAt ops id p ∧ ¬op.Concerns id := by
  constructor
  · rintro ⟨before, after, h, hafter⟩
    rcases List.eq_nil_or_concat' after with rfl | ⟨after, last, rfl⟩
    · obtain ⟨-, hlast⟩ := List.append_inj' h rfl
      exact .inl (List.singleton_inj.1 hlast)
    · rw [List.forall_mem_append, List.forall_mem_singleton] at hafter
      have hsplit : ops ++ [op] = (before ++ add id p :: after) ++ [last] := by simpa using h
      obtain ⟨rfl, hlast⟩ := List.append_inj' hsplit rfl
      obtain rfl := List.singleton_inj.1 hlast
      exact .inr ⟨⟨before, after, rfl, hafter.1⟩, hafter.2⟩
  · rintro (rfl | ⟨⟨before, after, rfl, hafter⟩, hop⟩)
    · exact ⟨ops, [], rfl, by simp⟩
    · refine ⟨before, after ++ [op], by simp, ?_⟩
      rw [List.forall_mem_append, List.forall_mem_singleton]
      exact ⟨hafter, hop⟩

theorem isPresent_concat :
    IsPresent (ops ++ [op]) id ↔ (∃ p, op = add id p) ∨ IsPresent ops id ∧ ¬op.Dismisses id := by
  simp only [IsPresent, placedAt_concat, exists_or, exists_and_right]
  refine or_congr_right' fun hadd => and_congr_right fun _ => ?_
  rw [Concerns, or_iff_left hadd]

theorem JoinedAt.lt_length {n : Nat} (h : JoinedAt ops id n) : n < ops.length := by
  obtain ⟨p, hadd⟩ := h.add
  exact (List.getElem?_eq_some_iff.1 hadd).1

/-- An operation that does not take the component out leaves its rank. -/
theorem JoinedAt.concat {n : Nat} (h : JoinedAt ops id n) (hop : ¬op.Dismisses id) :
    JoinedAt (ops ++ [op]) id n := by
  have hn := h.lt_length
  obtain ⟨⟨p, hadd⟩, habsent, hpresent⟩ := h
  refine ⟨⟨p, by rw [List.getElem?_append_left hn, hadd]⟩, ?_, fun k hk hlen => ?_⟩
  · rwa [List.take_append_of_le_length hn.le]
  · rcases Nat.lt_or_ge ops.length k with hlast | hle
    · rw [List.take_of_length_le (by simpa using hlast), isPresent_concat]
      have hnow := hpresent ops.length hn le_rfl
      rw [List.take_length] at hnow
      exact .inr ⟨hnow, hop⟩
    · rw [List.take_append_of_le_length hle]
      exact hpresent k hk hle

/-- A component that is added while it is absent joins then. -/
theorem joinedAt_length (h : ¬IsPresent ops id) (p : Placement) :
    JoinedAt (ops ++ [add id p]) id ops.length := by
  refine ⟨⟨p, List.getElem?_concat_length⟩, by rwa [List.take_left' rfl], fun k hk hlen => ?_⟩
  rw [List.take_of_length_le (by simpa using hk), isPresent_concat]
  exact .inl ⟨p, rfl⟩

/-- A component joins only once. -/
theorem JoinedAt.unique {m n : Nat} (hm : JoinedAt ops id m) (hn : JoinedAt ops id n) : m = n := by
  rcases Nat.lt_trichotomy m n with h | h | h
  · exact absurd (hm.present n h hn.lt_length.le) hn.absent
  · exact h
  · exact absurd (hn.present m h hm.lt_length.le) hm.absent

end Operation

/-! ## What the components are -/

namespace Grid

open Operation

/-- Only one entry has a key that differs between entries. -/
theorem find?_eq_some_iff {κ : Type} [BEq κ] [LawfulBEq κ] {key : Entry → κ} {entries : List Entry}
    (h : (entries.map key).Nodup) {k : κ} {e : Entry} :
    entries.find? (fun e => key e == k) = some e ↔ e ∈ entries ∧ key e = k := by
  constructor
  · intro hfind
    exact ⟨List.mem_of_find?_eq_some hfind, by simpa using List.find?_some hfind⟩
  · rintro ⟨he, rfl⟩
    obtain ⟨other, hother⟩ : ∃ other, entries.find? (fun e' => key e' == key e) = some other :=
      Option.isSome_iff_exists.1 (List.find?_isSome.2 ⟨e, he, by simp⟩)
    have hkey : key other = key e := by simpa using List.find?_some hother
    rw [hother, List.inj_on_of_nodup_map h (List.mem_of_find?_eq_some hother) he hkey]

/-- Registering a component keeps the order of the others and puts it at the end if it is new. -/
theorem map_id_register (entry : Entry) (entries : List Entry) :
    (register entry entries).map Entry.id =
      if entry.id ∈ entries.map Entry.id then entries.map Entry.id
      else entries.map Entry.id ++ [entry.id] := by
  induction entries with
  | nil => rfl
  | cons e rest ih =>
    by_cases h : e.id = entry.id
    · simp [register, h]
    · rw [register, if_neg h, List.map_cons, ih]
      by_cases hrest : entry.id ∈ rest.map Entry.id <;> simp [hrest, Ne.symm h]

/-- A component that is registered has its new placement, and the others keep theirs. -/
theorem mem_register_iff {entry : Entry} {entries : List Entry}
    (h : (entries.map Entry.id).Nodup) {e : Entry} :
    e ∈ register entry entries ↔ e = entry ∨ e ∈ entries ∧ e.id ≠ entry.id := by
  induction entries with
  | nil => simp [register]
  | cons a rest ih =>
    rw [List.map_cons, List.nodup_cons] at h
    by_cases ha : a.id = entry.id
    · have hrest (hmem : e ∈ rest) : e.id ≠ entry.id := by
        intro heq
        exact h.1 (ha.trans heq.symm ▸ List.mem_map_of_mem hmem)
      rw [register, if_pos ha, List.mem_cons, List.mem_cons]
      constructor
      · rintro (rfl | hmem)
        · exact .inl rfl
        · exact .inr ⟨.inr hmem, hrest hmem⟩
      · rintro (rfl | ⟨rfl | hmem, hne⟩)
        · exact .inl rfl
        · exact absurd ha hne
        · exact .inr hmem
    · rw [register, if_neg ha, List.mem_cons, List.mem_cons, ih h.2]
      constructor
      · rintro (rfl | rfl | ⟨hmem, hne⟩)
        · exact .inr ⟨.inl rfl, ha⟩
        · exact .inl rfl
        · exact .inr ⟨.inr hmem, hne⟩
      · rintro (rfl | ⟨rfl | hmem, hne⟩)
        · exact .inr (.inl rfl)
        · exact .inl rfl
        · exact .inr (.inr ⟨hmem, hne⟩)

/-- The entries are the components that the history has placed, in the order in which they
joined. -/
structure Registers (ops : List Operation) (entries : List Entry) : Prop where
  nodup : (entries.map Entry.id).Nodup
  mem_iff : ∀ e, e ∈ entries ↔ PlacedAt ops e.id e.placement
  joined : ∀ id ∈ entries.map Entry.id, ∃ n, JoinedAt ops id n
  order : (entries.map Entry.id).Pairwise (JoinsBefore ops)

variable {ops : List Operation} {entries : List Entry}

theorem registers_nil : Registers [] [] :=
  ⟨.nil, fun _ => by simp [not_placedAt_nil], by simp, .nil⟩

theorem Registers.mem_ids_iff (h : Registers ops entries) {id : ComponentId} :
    id ∈ entries.map Entry.id ↔ IsPresent ops id := by
  constructor
  · intro hid
    obtain ⟨e, he, rfl⟩ := List.mem_map.1 hid
    exact ⟨e.placement, (h.mem_iff e).1 he⟩
  · rintro ⟨p, hp⟩
    exact List.mem_map.2 ⟨⟨id, p⟩, (h.mem_iff ⟨id, p⟩).2 hp, rfl⟩

/-- Ranks are kept by an operation that takes none of the components out. -/
theorem order_concat {op : Operation} {ids : List ComponentId} (h : ids.Pairwise (JoinsBefore ops))
    (hop : ∀ id ∈ ids, ¬op.Dismisses id) : ids.Pairwise (JoinsBefore (ops ++ [op])) := by
  refine h.imp_of_mem fun hid hid' => ?_
  rintro ⟨m, n, hm, hn, hlt⟩
  exact ⟨m, n, hm.concat (hop _ hid), hn.concat (hop _ hid'), hlt⟩

/-- An operation that is about no component changes nothing. -/
theorem Registers.skip (h : Registers ops entries) {op : Operation}
    (hop : ∀ id, ¬op.Concerns id) : Registers (ops ++ [op]) entries := by
  have hkeep (id : ComponentId) : ¬op.Dismisses id := fun hdismisses => hop id (.inl hdismisses)
  refine ⟨h.nodup, fun e => ?_, fun id hid => ?_, order_concat h.order fun id _ => hkeep id⟩
  · have hadd : op ≠ .add e.id e.placement := fun heq => hop e.id (.inr ⟨_, heq⟩)
    rw [h.mem_iff, placedAt_concat, or_iff_right hadd, and_iff_left (hop e.id)]
  · obtain ⟨n, hn⟩ := h.joined id hid
    exact ⟨n, hn.concat (hkeep id)⟩

/-- A component that is added is moved if it is there, and joins behind the others if not. -/
theorem Registers.add (h : Registers ops entries) (id : ComponentId) (p : Placement) :
    Registers (ops ++ [.add id p]) (register ⟨id, p⟩ entries) := by
  have hkeep (id' : ComponentId) : ¬(Operation.add id p).Dismisses id' := not_false
  have hmem (e : Entry) : e ∈ register ⟨id, p⟩ entries ↔
      PlacedAt (ops ++ [.add id p]) e.id e.placement := by
    have hadd : Operation.add id p = .add e.id e.placement ↔ e = ⟨id, p⟩ := by
      rw [Operation.add.injEq, Entry.mk.injEq, eq_comm, eq_comm (a := p)]
    have hconcerns : (Operation.add id p).Concerns e.id ↔ e.id = id := by
      simp [Concerns, hkeep, eq_comm]
    rw [mem_register_iff h.nodup, placedAt_concat, h.mem_iff, hadd, hconcerns]
  have hjoined : ∀ id' ∈ entries.map Entry.id,
      ∃ n < ops.length, JoinedAt (ops ++ [.add id p]) id' n := by
    intro id' hid'
    obtain ⟨n, hn⟩ := h.joined id' hid'
    exact ⟨n, hn.lt_length, hn.concat (hkeep id')⟩
  have horder := order_concat h.order fun id' _ => hkeep id'
  by_cases hid : id ∈ entries.map Entry.id
  · have hids : (register ⟨id, p⟩ entries).map Entry.id = entries.map Entry.id := by
      rw [map_id_register, if_pos hid]
    constructor
    · rw [hids]
      exact h.nodup
    · exact hmem
    · intro id' hid'
      obtain ⟨n, -, hn⟩ := hjoined id' (hids ▸ hid')
      exact ⟨n, hn⟩
    · rw [hids]
      exact horder
  · have hids : (register ⟨id, p⟩ entries).map Entry.id = entries.map Entry.id ++ [id] := by
      rw [map_id_register, if_neg hid]
    have hlast : JoinedAt (ops ++ [.add id p]) id ops.length :=
      joinedAt_length (fun hpresent => hid (h.mem_ids_iff.2 hpresent)) p
    constructor
    · rw [hids]
      exact List.nodup_append_comm.1 (List.nodup_cons.2 ⟨hid, h.nodup⟩)
    · exact hmem
    · intro id' hid'
      rw [hids, List.mem_append, List.mem_singleton] at hid'
      rcases hid' with hid' | rfl
      · obtain ⟨n, -, hn⟩ := hjoined id' hid'
        exact ⟨n, hn⟩
      · exact ⟨_, hlast⟩
    · rw [hids]
      refine List.pairwise_append.2 ⟨horder, List.pairwise_singleton _ _, fun a ha b hb => ?_⟩
      obtain rfl := List.mem_singleton.1 hb
      obtain ⟨n, hlt, hn⟩ := hjoined a ha
      exact ⟨n, _, hn, hlast, hlt⟩

theorem Registers.remove (h : Registers ops entries) (id : ComponentId) :
    Registers (ops ++ [.remove id]) (entries.filter fun e => e.id != id) := by
  have hsublist := (List.filter_sublist (p := fun e : Entry => e.id != id)
    (l := entries)).map Entry.id
  have hother : ∀ id' ∈ (entries.filter fun e => e.id != id).map Entry.id,
      ¬(Operation.remove id).Dismisses id' := by
    rintro id' hid' (rfl : id = id')
    obtain ⟨e, he, heq⟩ := List.mem_map.1 hid'
    simp [heq] at he
  refine ⟨h.nodup.sublist hsublist, fun e => ?_, fun id' hid' => ?_,
    order_concat (h.order.sublist hsublist) hother⟩
  · have hconcerns : (Operation.remove id).Concerns e.id ↔ e.id = id := by
      simp [Concerns, Dismisses, eq_comm]
    simp [placedAt_concat, hconcerns, h.mem_iff]
  · obtain ⟨n, hn⟩ := h.joined id' (hsublist.subset hid')
    exact ⟨n, hn.concat (hother id' hid')⟩

theorem registers_clear (ops : List Operation) : Registers (ops ++ [.clear]) [] :=
  ⟨.nil, fun e => by simp [placedAt_concat, Concerns, Dismisses], by simp, .nil⟩

/-- **The invariant of all histories**: the components agree with the history. -/
theorem registers_foldl {g : CachedGrid} (hempty : g.grid.components = []) (ops : List Operation) :
    Registers ops (ops.foldl CachedGrid.after g).grid.components := by
  induction ops using List.reverseRecOn with
  | nil =>
    rw [List.foldl_nil, hempty]
    exact registers_nil
  | append_singleton ops op ih =>
    rw [List.foldl_concat, CachedGrid.grid_after]
    have hskip (h : ∀ id, ¬op.Concerns id) := ih.skip h
    cases op with
    | add id p => exact ih.add id p
    | remove id => exact ih.remove id
    | clear => exact registers_clear ops
    | setTrack axis index track =>
      have hset := hskip fun id => by simp [Concerns, Dismisses]
      simp only [Grid.after]
      cases hresult : (ops.foldl CachedGrid.after g).grid.setTrack axis index track with
      | error fault => exact hset
      | ok g' =>
        rw [← components_setTrack hresult] at hset
        exact hset
    | addGroup | setCanShrink | flush | copy | ask =>
      exact hskip fun id => by simp [Concerns, Dismisses]

/-! ## What can be asked about components -/

theorem placement?_eq_some_iff {g : Grid} (h : (g.components.map Entry.id).Nodup)
    {id : ComponentId} {p : Placement} :
    g.placement? id = some p ↔ ⟨id, p⟩ ∈ g.components := by
  simp only [placement?, Option.map_eq_some_iff, find?_eq_some_iff h]
  constructor
  · rintro ⟨e, ⟨he, rfl⟩, rfl⟩
    exact he
  · intro he
    exact ⟨_, ⟨he, rfl⟩, rfl⟩

/-- Once the placements are accepted, at most one component starts in a cell. -/
theorem componentAt?_eq_some_iff {g : Grid} (h : g.check = .ok ()) {column row : Nat}
    {id : ComponentId} : g.componentAt? column row = some id ↔
      ∃ p, ⟨id, p⟩ ∈ g.components ∧ p.corner = (column, row) := by
  have hnodup : (g.components.map fun e => e.placement.corner).Nodup :=
    List.pairwise_map.2 (check_eq_ok_iff.1 h).2
  have hfind (e : Entry) : g.components.find? (fun e => e.placement.corner == (column, row)) =
      some e ↔ e ∈ g.components ∧ e.placement.corner = (column, row) := find?_eq_some_iff hnodup
  simp only [componentAt?, Option.map_eq_some_iff, hfind]
  constructor
  · rintro ⟨e, ⟨he, hcorner⟩, rfl⟩
    exact ⟨e.placement, he, hcorner⟩
  · rintro ⟨p, he, hcorner⟩
    exact ⟨_, ⟨he, hcorner⟩, rfl⟩

end Grid

namespace CachedGrid

open Operation

/-- The grid was just created, from tracks, by its dimensions or from specifications. -/
inductive IsNew : CachedGrid → Prop
  | ofTracks {columns rows : List Track} {g : Grid} :
    Grid.ofTracks columns rows = .ok g → IsNew (.ofGrid g)
  | ofDimensions {columns rows : Nat} {g : Grid} :
    Grid.ofDimensions columns rows = .ok g → IsNew (.ofGrid g)
  | ofSpecs {columns rows : String} {g : Grid} :
    Grid.ofSpecs columns rows = .ok g → IsNew (.ofGrid g)

theorem IsNew.reachable {g : CachedGrid} (h : g.IsNew) : g.Reachable := by
  cases h with
  | ofTracks h => exact .ofTracks h
  | ofDimensions h => exact .ofDimensions h
  | ofSpecs h => exact .ofSpecs h

/-- A new grid has no components. -/
theorem IsNew.components_eq {g : CachedGrid} (h : g.IsNew) : g.grid.components = [] := by
  have hempty {columns rows : List Track} {g : Grid} (h : Grid.ofTracks columns rows = .ok g) :
      g.components = [] := by rw [Grid.eq_of_ofTracks h]
  cases h with
  | ofTracks h => exact hempty h
  | ofDimensions h =>
    unfold Grid.ofDimensions at h
    split at h
    · cases h
    · exact hempty h
  | ofSpecs h =>
    obtain ⟨columns, -, h⟩ := bind_eq_ok_iff.1 h
    obtain ⟨rows, -, h⟩ := bind_eq_ok_iff.1 h
    exact hempty h

theorem remove_fst_eq_true_iff {g : CachedGrid} {id : ComponentId} :
    (g.remove id).1 = true ↔ id ∈ g.grid.components.map Entry.id := by
  have hcontains : g.grid.contains id = true ↔ id ∈ g.grid.components.map Entry.id := by
    simp [Grid.contains]
  rw [← hcontains, remove]
  split <;> simp_all

/-- **The components of a grid are an ordered map**, whatever is done to the grid after it was
created and whatever is asked of it in between. No component is there twice; it is where it was put
last, unless it was taken out since, and it has kept the rank with which it joined. Taking it out
tells whether it was there. A layout has one rectangle for each component in their order, and once
the placements are accepted a cell has the only component that starts in it, if there is one. -/
theorem registry_exact {start : CachedGrid} (h : start.IsNew) (ops : List Operation) :
    let g := ops.foldl CachedGrid.after start
    let ids := g.grid.components.map Entry.id
    ids.Nodup ∧
      (∀ id p, g.grid.placement? id = some p ↔ PlacedAt ops id p) ∧
      (∀ id, id ∈ ids ↔ IsPresent ops id) ∧
      (∀ id ∈ ids, ∃! n, JoinedAt ops id n) ∧ ids.Pairwise (JoinsBefore ops) ∧
      (∀ id, (g.remove id).1 = true ↔ IsPresent ops id) ∧
      (∀ p insets container a, ((Layout.free g).perform p insets container).1 = .ok a →
        a.bounds.map Prod.fst = ids) ∧
      ((g.answer .validate).1 = .ok () → ∀ column row id,
        g.grid.componentAt? column row = some id ↔
          ∃ p, PlacedAt ops id p ∧ p.corner = (column, row)) := by
  intro g ids
  have hreachable : g.Reachable := h.reachable.foldl ops
  have hregisters : Grid.Registers ops g.grid.components := Grid.registers_foldl h.components_eq ops
  refine ⟨hregisters.nodup, fun id p => ?_, fun id => hregisters.mem_ids_iff, fun id hid => ?_,
    hregisters.order, fun id => ?_, fun p insets container a ha => ?_,
    fun hvalid column row id => ?_⟩
  · rw [Grid.placement?_eq_some_iff hregisters.nodup, hregisters.mem_iff]
  · obtain ⟨n, hn⟩ := hregisters.joined id hid
    exact ⟨n, hn, fun m hm => hm.unique hn⟩
  · rw [remove_fst_eq_true_iff, hregisters.mem_ids_iff]
  · rw [perform_free] at ha
    exact (hreachable.arrangesSafely p.measures insets container).ids_eq a ha
  · have hcheck : g.grid.check = .ok () := (hreachable.answer_eq_scan .validate).symm.trans hvalid
    simp only [Grid.componentAt?_eq_some_iff hcheck, hregisters.mem_iff]

/-- The first component is moved, the second one is taken out and joins again in the cell that has
become free, and the third one is not there any more. -/
theorem registry_of_moves :
    let ops : List Operation := [.add ⟨1⟩ (.single 0 0), .add ⟨2⟩ (.single 1 1), .ask .validate,
      .add ⟨3⟩ (.single 0 1), .add ⟨1⟩ (.single 1 0), .remove ⟨2⟩, .add ⟨2⟩ (.single 0 0),
      .remove ⟨3⟩]
    let g := ops.foldl CachedGrid.after (.ofGrid
      ⟨⟨⟨List.replicate 2 .defaultColumn, []⟩, ⟨List.replicate 2 .defaultRow, []⟩⟩, [], true⟩)
    PlacedAt ops ⟨1⟩ (.single 1 0) ∧ ¬IsPresent ops ⟨3⟩ ∧ JoinsBefore ops ⟨1⟩ ⟨2⟩ ∧
      (g.answer .validate).1 = .ok () ∧ ∃ p, PlacedAt ops ⟨2⟩ p ∧ p.corner = (0, 0) := by
  intro ops g
  have hgrid : Grid.ofDimensions 2 2 =
      .ok ⟨⟨⟨List.replicate 2 .defaultColumn, []⟩, ⟨List.replicate 2 .defaultRow, []⟩⟩, [], true⟩ :=
    rfl
  obtain ⟨-, hplaced, -, -, horder, hremove, -, hat⟩ := registry_exact (.ofDimensions hgrid) ops
  have hids : g.grid.components.map Entry.id = [⟨1⟩, ⟨2⟩] := by decide +kernel
  have hremoved : (g.remove ⟨3⟩).1 ≠ true := by decide +kernel
  have hvalid : (g.answer .validate).1 = .ok () := by decide +kernel
  refine ⟨(hplaced _ _).1 (by decide +kernel), fun hpresent => hremoved ((hremove _).2 hpresent),
    ?_, hvalid, (hat hvalid 0 0 ⟨2⟩).1 (by decide +kernel)⟩
  exact List.rel_of_pairwise_cons (hids ▸ horder) (List.mem_singleton_self _)

end CachedGrid

end GridLayout

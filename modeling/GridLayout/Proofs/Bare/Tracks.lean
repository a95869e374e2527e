import GridLayout.Persist.Instances
import GridLayout.Proofs.Track.Building
import GridLayout.Proofs.TrackGroup.Members

/-!
# Tracks and groups without proofs

A track carries the proofs that its least size is not below zero and its weight a percentage, and a
group that its indices ascend. Here they are made without any proof, on each of the ways on which
they can be made: of texts, step by step, of persisted forms, or as usual ones. What is made is the
same, so the checks on these ways are all that it takes. The grammar of texts needs none for the
least size, and a builder may keep one below zero, because it never makes a track of it.

* `BareTrack` and `BareTrack.Arises`: the properties of a track, and the ways on which they arise.
* `RoutesAgree`: each way makes what it makes with proofs.
* `BareTrack.arises_iff_inBounds` and `BareGroup.arises_iff_ascending`: what arises is what is in
  bounds.
-/

namespace GridLayout

/-! ## Tracks -/

/-- The properties of a track, whatever they are. -/
structure BareTrack where
  alignment : Alignment
  sizing : Sizing
  minimum : Length
  weight : Nat

/-- The properties of a track. -/
def Track.bare (t : Track) : BareTrack := ⟨t.alignment, t.sizing, t.minimum, t.weight⟩

namespace BareTrack

/-- The least size is not below zero, and the weight is a percentage. -/
structure InBounds (t : BareTrack) : Prop where
  minimum_nonneg : t.minimum.value.isNegative = false
  weight_le : t.weight ≤ 100

theorem inBounds_bare (t : Track) : t.bare.InBounds := ⟨t.minimum_nonneg, t.weight_le⟩

/-! ### Texts -/

/-- A whole number of 64 bits that is a percentage. -/
def readWeight (part : List Char) : Except LayoutError Nat :=
  match Text.intOfBits? 64 (Text.trim part) with
  | none => .error (.unreadable (String.ofList part) .invalidWeight)
  | some n =>
    if 0 ≤ n ∧ n.toNat ≤ maxWeight then .ok n.toNat
    else .error (.unreadable (String.ofList part) .weightOutOfRange)

/-- Put the parts of a track together; the alignment is read before the weight. -/
def assemble (alignment : Option (List Char)) (size : Sizing × Length)
    (weight : Option (List Char)) (default : Alignment) : Except LayoutError BareTrack := do
  let alignment ← match alignment with
    | some part => Alignment.read part
    | none => pure default
  let weight ← match weight with
    | some part => readWeight part
    | none => pure 0
  return ⟨alignment, size.1, size.2, weight⟩

/-- A size; its least size is not checked. -/
def readSize (part : List Char) : Except LayoutError (Sizing × Length) :=
  Track.readSizeWith Length.read .zero part

/-- Read one track; `default` stands in for a missing alignment. -/
def read (spec : List Char) (default : Alignment) : Except LayoutError BareTrack :=
  if (Text.trim spec).isEmpty then .error (.unreadable (String.ofList spec) .emptySpec)
  else
    match Text.split (· == '/') spec with
    | [size] => do assemble none (← readSize size) none default
    | [first, second] =>
      match readSize first with
      | .ok size => assemble none size (some second) default
      | .error _ => do assemble (some first) (← readSize second) none default
    | [alignment, size, weight] => do
      assemble (some alignment) (← readSize size) (some weight) default
    | _ => .error (.unreadable (String.ofList spec) .tooManyParts)

/-- Read a list of tracks, of which there is at least one. -/
def readList (spec : List Char) (default : Alignment) : Except LayoutError (List BareTrack) := do
  let tracks ← (Text.words Track.isSeparator spec).mapM fun word => read word default
  if tracks.isEmpty then throw (.unreadable (String.ofList spec) .noTracks)
  return tracks

/-- The track of a persisted form. -/
def decode : Value → Option BareTrack
  | .text s => (read s.toList .fill).toOption
  | _ => none

theorem map_val_leastSize_read (s : List Char) :
    Subtype.val <$> LeastSize.read s = Length.read s := by
  cases h : Length.read s with
  | ok l =>
    rw [Track.leastSize_read_of_read h]
    rfl
  | error fault =>
    rw [Track.leastSize_read_of_error h]
    rfl

theorem map_val_readSize (part : List Char) :
    Prod.map id Subtype.val <$> Track.readSize part = readSize part := by
  unfold Track.readSize readSize Track.readSizeWith
  simp only [← map_val_leastSize_read]
  split
  · split
    · simp only [map_bind, bind_map_left, map_pure]
      rfl
    · rfl
  · split
    · rfl
    · rfl
    · cases LeastSize.read (Text.trim part) <;> rfl

theorem map_val_readWeight (part : List Char) :
    Subtype.val <$> Track.readWeight part = readWeight part := by
  unfold Track.readWeight readWeight Weight.ofInt?
  cases Text.intOfBits? 64 (Text.trim part) with
  | none => rfl
  | some n =>
    by_cases h : 0 ≤ n ∧ n.toNat ≤ maxWeight
    · simp only [dif_pos h, if_pos h]
      rfl
    · simp only [dif_neg h, if_neg h]
      rfl

theorem map_bare_assemble (alignment : Option (List Char)) (size : Sizing × LeastSize)
    (weight : Option (List Char)) (default : Alignment) :
    Track.bare <$> Track.assemble alignment size weight default =
      assemble alignment (Prod.map id Subtype.val size) weight default := by
  unfold Track.assemble assemble
  simp only [← map_val_readWeight]
  cases alignment <;> cases weight <;> simp only [map_bind, bind_map_left, map_pure, pure_bind] <;>
    rfl

/-- A text is read to the same properties. -/
theorem map_bare_read (spec : List Char) (default : Alignment) :
    Track.bare <$> Track.read spec default = read spec default := by
  have hone (alignment : Option (List Char)) (size : List Char) (weight : Option (List Char)) :
      Track.bare <$> (Track.readSize size >>= fun size =>
          Track.assemble alignment size weight default) =
        readSize size >>= fun size => assemble alignment size weight default := by
    simp only [← map_val_readSize, map_bind, bind_map_left, map_bare_assemble]
  unfold Track.read read
  split
  · rfl
  · generalize Text.split (· == '/') spec = parts
    match parts with
    | [size] => exact hone none size none
    | [first, second] =>
      simp only [← map_val_readSize first]
      cases Track.readSize first with
      | ok size => exact map_bare_assemble none size (some second) default
      | error fault => exact hone (some first) second none
    | [alignment, size, weight] => exact hone (some alignment) size (some weight)
    | [] | _ :: _ :: _ :: _ :: _ => rfl

/-- So is a list of them. -/
theorem map_bare_readList (spec : List Char) (default : Alignment) :
    List.map Track.bare <$> Track.readList spec default = readList spec default := by
  unfold Track.readList readList
  simp only [← map_bare_read, ← map_mapM, map_bind, bind_map_left, List.isEmpty_map]
  refine bind_congr fun tracks => ?_
  split <;> rfl

/-- So is a persisted form. -/
theorem map_bare_decode (v : Value) : Track.bare <$> Persisted.decode v = decode v := by
  cases v with
  | text s =>
    change Track.bare <$> (Track.read s.toList .fill).toOption = (read s.toList .fill).toOption
    rw [← map_bare_read]
    cases Track.read s.toList .fill <;> rfl
  | null | bool | int | float | list | object => rfl

end BareTrack

/-! ### Step by step -/

/-- A builder of tracks without proofs; it keeps a least size below zero. -/
structure BareBuilder where
  defaultAlignment : Alignment
  alignment : Option Alignment
  sizing : Option Sizing
  minimum : Option Length
  weight : Nat
  fault : Option ArgumentFault

namespace BareBuilder

open TrackBuilder (Call)

/-- A builder with nothing set. -/
def new (default : Alignment) : BareBuilder := ⟨default, none, none, none, 0, none⟩

/-- Remember a fault unless there is an earlier one. -/
def refuse (b : BareBuilder) (fault : ArgumentFault) : BareBuilder :=
  { b with fault := b.fault.or (some fault) }

/-- The builder after a call. -/
def step (b : BareBuilder) : Call → BareBuilder
  | .setDefaultAlignment a => { b with defaultAlignment := a }
  | .setAlignment a => { b with alignment := some a }
  | .setSizing s => { b with sizing := some s }
  | .setMinimum l =>
    let stored : BareBuilder := { b with minimum := some l }
    if l.value.isNegative then stored.refuse (.negativeMinimum l) else stored
  | .setWeight n =>
    if 0 ≤ n ∧ n.toNat ≤ maxWeight then { b with weight := n.toNat }
    else b.refuse (.weightOutOfRange n)
  | .reset | .create | .createColumn | .createRow | .read _ => new b.defaultAlignment

/-- The track of the properties set so far. A least size alone makes a fixed track. -/
def build (b : BareBuilder) : Except LayoutError BareTrack :=
  match b.fault with
  | some fault => .error (.argument fault)
  | none =>
    if b.sizing.isNone && b.minimum.isNone then .error (.state .noSize)
    else
      .ok ⟨b.alignment.getD b.defaultAlignment, b.sizing.getD .fixed, b.minimum.getD .zero,
        b.weight⟩

/-- The builders agree, and unless there is a fault also in the values that have a range. -/
structure Mirrors (bare : BareBuilder) (b : TrackBuilder) : Prop where
  default_eq : bare.defaultAlignment = b.defaultAlignment
  alignment_eq : bare.alignment = b.alignment
  sizing_eq : bare.sizing = b.sizing
  fault_eq : bare.fault = b.fault
  minimum_eq : b.fault = none → bare.minimum = b.minimum.map Subtype.val
  weight_eq : b.fault = none → bare.weight = b.weight.val

variable {bare : BareBuilder} {b : TrackBuilder}

theorem mirrors_new (default : Alignment) : Mirrors (new default) (.new default) :=
  ⟨rfl, rfl, rfl, rfl, fun _ => rfl, fun _ => rfl⟩

/-- With a fault the values that have a range do not matter any more. -/
theorem mirrors_refuse (fault : ArgumentFault)
    (hdefault : bare.defaultAlignment = b.defaultAlignment)
    (halignment : bare.alignment = b.alignment) (hsizing : bare.sizing = b.sizing)
    (hfault : bare.fault = b.fault) :
    Mirrors (bare.refuse fault) (b.refuse fault) := by
  have hrefused : (b.refuse fault).fault ≠ none := by simp [TrackBuilder.refuse]
  refine ⟨hdefault, halignment, hsizing, ?_, fun hnone => absurd hnone hrefused,
    fun hnone => absurd hnone hrefused⟩
  simp only [refuse, TrackBuilder.refuse, hfault]

theorem Mirrors.step (h : Mirrors bare b) (call : Call) :
    Mirrors (bare.step call) (b.step call) := by
  obtain ⟨hdefault, halignment, hsizing, hfault, hminimum, hweight⟩ := h
  cases call with
  | setDefaultAlignment a => exact ⟨rfl, halignment, hsizing, hfault, hminimum, hweight⟩
  | setAlignment a => exact ⟨hdefault, rfl, hsizing, hfault, hminimum, hweight⟩
  | setSizing s => exact ⟨hdefault, halignment, rfl, hfault, hminimum, hweight⟩
  | setMinimum l =>
    by_cases hl : l.value.isNegative = false
    · have hstored : bare.step (.setMinimum l) = { bare with minimum := some l } :=
        if_neg (by simp [hl])
      rw [b.step_setMinimum_of_nonneg hl, hstored]
      exact ⟨hdefault, halignment, hsizing, hfault, fun _ => rfl, hweight⟩
    · have hstored : bare.step (.setMinimum l) =
          { bare with minimum := some l }.refuse (.negativeMinimum l) := if_pos (by simpa using hl)
      rw [b.step_setMinimum_of_negative hl, hstored]
      exact mirrors_refuse _ hdefault halignment hsizing hfault
  | setWeight n =>
    by_cases hn : 0 ≤ n ∧ n.toNat ≤ maxWeight
    · have hstored : bare.step (.setWeight n) = { bare with weight := n.toNat } := if_pos hn
      rw [b.step_setWeight_of_inRange hn, hstored]
      exact ⟨hdefault, halignment, hsizing, hfault, hminimum, fun _ => rfl⟩
    · have hstored : bare.step (.setWeight n) = bare.refuse (.weightOutOfRange n) := if_neg hn
      rw [b.step_setWeight_of_outOfRange hn, hstored]
      exact mirrors_refuse _ hdefault halignment hsizing hfault
  | reset | create | createColumn | createRow | read =>
    change Mirrors (new bare.defaultAlignment) (.new b.defaultAlignment)
    rw [hdefault]
    exact mirrors_new _

theorem mirrors_foldl (default : Alignment) (calls : List Call) :
    Mirrors (calls.foldl step (new default)) (calls.foldl TrackBuilder.step (.new default)) := by
  induction calls using List.reverseRecOn with
  | nil => exact mirrors_new default
  | append_singleton calls call ih =>
    rw [List.foldl_concat, List.foldl_concat]
    exact ih.step call

/-- A value out of range that is kept does not get into a track. -/
theorem Mirrors.map_bare_build (h : Mirrors bare b) : Track.bare <$> b.build = bare.build := by
  obtain ⟨default, alignment, sizing, minimum, weight, fault⟩ := b
  obtain ⟨hdefault, halignment, hsizing, hfault, hminimum, hweight⟩ := h
  unfold TrackBuilder.build build
  rw [hdefault, halignment, hsizing, hfault]
  cases fault with
  | some fault => rfl
  | none =>
    rw [hminimum rfl, hweight rfl]
    cases sizing <;> cases minimum <;> rfl

/-- After any calls a builder creates the same properties. -/
theorem map_bare_build (default : Alignment) (calls : List Call) :
    Track.bare <$> (calls.foldl TrackBuilder.step (.new default)).build =
      (calls.foldl step (new default)).build :=
  (mirrors_foldl default calls).map_bare_build

end BareBuilder

namespace BareTrack

/-- The track that follows its components and has no weight. -/
def usual (alignment : Alignment) : BareTrack := ⟨alignment, .preferred, .zero, 0⟩

/-- The ways on which a track is made. -/
inductive Arises : BareTrack → Prop
  | read {spec : List Char} {default : Alignment} {t : BareTrack} :
    read spec default = .ok t → Arises t
  | listed {spec : List Char} {default : Alignment} {tracks : List BareTrack} {t : BareTrack} :
    readList spec default = .ok tracks → t ∈ tracks → Arises t
  | built {default : Alignment} {calls : List TrackBuilder.Call} {t : BareTrack} :
    (calls.foldl BareBuilder.step (.new default)).build = .ok t → Arises t
  | usualColumn : Arises (usual .fill)
  | usualRow : Arises (usual .center)
  | decoded {v : Value} {t : BareTrack} : decode v = some t → Arises t

/-- What arises has the properties of a track. -/
theorem Arises.exists_bare {t : BareTrack} (h : t.Arises) : ∃ track : Track, track.bare = t := by
  cases h with
  | read h =>
    obtain ⟨track, -, htrack⟩ := map_eq_ok_iff.1 ((map_bare_read _ _).trans h)
    exact ⟨track, htrack⟩
  | listed h hmem =>
    obtain ⟨tracks, -, rfl⟩ := map_eq_ok_iff.1 ((map_bare_readList _ _).trans h)
    obtain ⟨track, -, htrack⟩ := List.mem_map.1 hmem
    exact ⟨track, htrack⟩
  | built h =>
    obtain ⟨track, -, htrack⟩ := map_eq_ok_iff.1 ((BareBuilder.map_bare_build _ _).trans h)
    exact ⟨track, htrack⟩
  | usualColumn => exact ⟨.defaultColumn, rfl⟩
  | usualRow => exact ⟨.defaultRow, rfl⟩
  | decoded h =>
    obtain ⟨track, -, htrack⟩ := Option.map_eq_some_iff.1 ((map_bare_decode _).trans h)
    exact ⟨track, htrack⟩

instance : CanLift BareTrack Track Track.bare Arises := ⟨fun _ => Arises.exists_bare⟩

/-- **What arises is what is in bounds**: no way leads out of the bounds, and a builder reaches
everything within. -/
theorem arises_iff_inBounds {t : BareTrack} : t.Arises ↔ t.InBounds := by
  constructor
  · intro h
    lift t to Track using h
    exact inBounds_bare t
  · intro h
    let calls : List TrackBuilder.Call :=
      [.setAlignment t.alignment, .setSizing t.sizing, .setMinimum t.minimum, .setWeight t.weight]
    have hweight : t.weight ≤ maxWeight := h.weight_le
    have hbuild : (calls.foldl BareBuilder.step (.new .fill)).build = .ok t := by
      simp [calls, BareBuilder.step, BareBuilder.new, BareBuilder.build, hweight, h.minimum_nonneg]
    exact .built hbuild

end BareTrack

/-! ## Groups -/

namespace BareGroup

/-- The indices in ascending order, of which there must be at least two, all different. -/
def ofList (indices : List Nat) : Except LayoutError (List Nat) :=
  let sorted := TrackGroup.sort indices
  if sorted.length < 2 then .error (.argument .fewIndices)
  else
    match TrackGroup.firstRepeated sorted with
    | some index => .error (.argument (.repeatedIndex index))
    | none => .ok sorted

/-- Read the indices of a group in any order. -/
def ofText (s : String) : Except LayoutError (List Nat) := do
  let indices ← (Text.words TrackGroup.isSeparator s.toList).mapM fun word =>
    match Text.natOfBits? 64 word with
    | some index => Except.ok index
    | none => .error (.unreadable s (.invalidIndex (String.ofList word)))
  ofList indices

/-- The indices of a persisted form. -/
def decode (v : Value) : Option (List Nat) := do (ofList (← Persisted.decode v)).toOption

theorem map_indices_ofList (indices : List Nat) :
    TrackGroup.indices <$> TrackGroup.ofList indices = ofList indices := by
  unfold TrackGroup.ofList ofList
  by_cases htwo : 2 ≤ (TrackGroup.sort indices).length
  · simp only [dif_pos htwo, if_neg (Nat.not_lt.2 htwo)]
    split
    · next hrepeated =>
      simp only [hrepeated]
      rfl
    · next hnone =>
      simp only [hnone]
      rfl
  · simp only [dif_neg htwo, if_pos (Nat.not_le.1 htwo)]
    rfl

theorem map_indices_ofText (s : String) :
    TrackGroup.indices <$> TrackGroup.ofText s = ofText s := by
  rw [TrackGroup.ofText, map_bind]
  exact bind_congr map_indices_ofList

theorem map_indices_decode (v : Value) : TrackGroup.indices <$> Persisted.decode v = decode v := by
  change TrackGroup.indices <$> (Persisted.decode v >>= fun l => (TrackGroup.ofList l).toOption) = _
  simp only [decode, map_bind, ← map_indices_ofList]
  refine bind_congr fun indices => ?_
  cases TrackGroup.ofList indices <;> rfl

/-- The ways on which the indices of a group are made. -/
inductive Arises : List Nat → Prop
  | listed {indices group : List Nat} : ofList indices = .ok group → Arises group
  | read {s : String} {group : List Nat} : ofText s = .ok group → Arises group
  | decoded {v : Value} {group : List Nat} : decode v = some group → Arises group

theorem Arises.exists_indices {l : List Nat} (h : Arises l) :
    ∃ group : TrackGroup, group.indices = l := by
  cases h with
  | listed h =>
    obtain ⟨group, -, hgroup⟩ := map_eq_ok_iff.1 ((map_indices_ofList _).trans h)
    exact ⟨group, hgroup⟩
  | read h =>
    obtain ⟨group, -, hgroup⟩ := map_eq_ok_iff.1 ((map_indices_ofText _).trans h)
    exact ⟨group, hgroup⟩
  | decoded h =>
    obtain ⟨group, -, hgroup⟩ := Option.map_eq_some_iff.1 ((map_indices_decode _).trans h)
    exact ⟨group, hgroup⟩

instance : CanLift (List Nat) TrackGroup TrackGroup.indices Arises :=
  ⟨fun _ => Arises.exists_indices⟩

/-- **What arises is two indices or more, ascending.** -/
theorem arises_iff_ascending {l : List Nat} :
    Arises l ↔ 2 ≤ l.length ∧ l.Pairwise (· < ·) := by
  constructor
  · intro h
    lift l to TrackGroup using h
    exact ⟨l.two_le, l.ascending⟩
  · rintro ⟨htwo, hascending⟩
    have hlist : ofList l = .ok l := by
      rw [← map_indices_ofList, TrackGroup.ofList_indices ⟨l, htwo, hascending⟩]
      rfl
    exact .listed hlist

end BareGroup

/-! ## All ways -/

/-- On each of the ways the same is made with proofs and without. -/
structure RoutesAgree : Prop where
  read : ∀ spec default, Track.bare <$> Track.read spec default = BareTrack.read spec default
  readList : ∀ spec default,
    List.map Track.bare <$> Track.readList spec default = BareTrack.readList spec default
  build : ∀ default (calls : List TrackBuilder.Call),
    Track.bare <$> (calls.foldl TrackBuilder.step (.new default)).build =
      (calls.foldl BareBuilder.step (.new default)).build
  decode : ∀ v, Track.bare <$> Persisted.decode v = BareTrack.decode v
  groupOfList : ∀ l, TrackGroup.indices <$> TrackGroup.ofList l = BareGroup.ofList l
  groupOfText : ∀ s, TrackGroup.indices <$> TrackGroup.ofText s = BareGroup.ofText s
  decodeGroup : ∀ v, TrackGroup.indices <$> Persisted.decode v = BareGroup.decode v

theorem routesAgree : RoutesAgree where
  read := BareTrack.map_bare_read
  readList := BareTrack.map_bare_readList
  build := BareBuilder.map_bare_build
  decode := BareTrack.map_bare_decode
  groupOfList := BareGroup.map_indices_ofList
  groupOfText := BareGroup.map_indices_ofText
  decodeGroup := BareGroup.map_indices_decode

end GridLayout

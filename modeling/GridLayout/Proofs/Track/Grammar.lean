import GridLayout.Proofs.Length.Scanned
import GridLayout.Proofs.Track.Specification

/-!
# The grammar of specifications

What a track specification may look like and which track it denotes, said without reading it: its
parts between slashes are a size, an alignment and a size, a size and a weight, or all three. The
reader accepts exactly these texts and reads the track that they denote.

* `Track.Specifies`: the grammar, and `Track.IsSizePart`, `Track.IsAlignmentPart` and
  `Track.IsWeightPart` for the parts.
* `Track.readSize_eq_ok_iff` and its siblings: each part is read exactly if it is in the grammar.
* `Track.not_isSizePart_of_isAlignmentPart`: no part is both an alignment and a size, so it does not
  matter which of the two is tried first.
* `Track.read_eq_ok_iff`: whole specifications. `Track.read_exact` is all of it.
-/

namespace GridLayout

/-! ## Names -/

theorem Alignment.isLetter_name (a : Alignment) : ∀ c ∈ a.name.toList, IsLetter c := by
  refine List.all_iff_forall_prop.1 ?_
  cases a <;> decide

theorem Sizing.isLetter_name (sizing : Sizing) : ∀ c ∈ sizing.name.toList, IsLetter c := by
  refine List.all_iff_forall_prop.1 ?_
  cases sizing <;> decide

theorem Sizing.name_ne_nil (sizing : Sizing) : sizing.name.toList ≠ [] := by
  cases sizing <;> decide

theorem Alignment.ofName?_eq_some_iff {name : String} {a : Alignment} :
    ofName? name = some a ↔ name = a.name := by
  constructor
  · intro h
    have hfound := List.find?_some (p := fun a : Alignment => a.name == name) h
    exact (beq_iff_eq.1 hfound).symm
  · rintro rfl
    cases a <;> decide

theorem Sizing.ofName?_eq_some_iff {name : String} {sizing : Sizing} :
    ofName? name = some sizing ↔ name = sizing.name := by
  constructor
  · intro h
    have hfound := List.find?_some (p := fun s : Sizing => s.name == name) h
    exact (beq_iff_eq.1 hfound).symm
  · rintro rfl
    cases sizing <;> decide

/-- A text in capital letters is a name in capital letters if it spells it. -/
theorem ofList_uppercase_eq_iff {name : String} {s : List Char}
    (h : Text.uppercase name.toList = name.toList) :
    String.ofList (Text.uppercase s) = name ↔ Spells name s := by
  rw [Spells, ← Text.uppercase_eq_iff, h, ← String.toList_inj, String.toList_ofList]

theorem Alignment.read_eq_ok_iff {part : List Char} {a : Alignment} :
    Alignment.read part = .ok a ↔ Spells a.name (Text.trim part) := by
  have hupper : Text.uppercase a.name.toList = a.name.toList := by
    cases a <;> decide
  rw [← ofList_uppercase_eq_iff hupper, ← Alignment.ofName?_eq_some_iff, Alignment.read]
  split
  · next h => simp [h]
  · next h => simp [h]

theorem Sizing.read_eq_ok_iff {part : List Char} {sizing : Sizing} :
    Sizing.read part = .ok sizing ↔ Spells sizing.name (Text.trim part) := by
  have hupper : Text.uppercase sizing.name.toList = sizing.name.toList := by
    cases sizing <;> decide
  rw [← ofList_uppercase_eq_iff hupper, ← Sizing.ofName?_eq_some_iff, Sizing.read]
  split
  · next h => simp [h]
  · next h => simp [h]

namespace Track

/-! ## The grammar -/

/-- The text denotes the sizing with the least size: a keyword other than that of fixed tracks, a
keyword with a length in parentheses, or a length alone. What may stand between a keyword and its
parenthesis is left open. -/
inductive DenotesSize (between : List Char → Prop) : List Char → Sizing → Length → Prop
  | keyword {word : List Char} {sizing : Sizing} :
    Spells sizing.name word → sizing ≠ .fixed → DenotesSize between word sizing .zero
  | keywordLength {word gap inner : List Char} {sizing : Sizing} {least : Length} :
    Spells sizing.name word → between gap → Length.read inner = .ok least →
      DenotesSize between (word ++ gap ++ '(' :: (inner ++ [')'])) sizing least
  | length {s : List Char} {least : Length} :
    Length.read s = .ok least → DenotesSize between s .fixed least

/-- The part is a size with blanks around it. -/
def IsSizePart (between : List Char → Prop) (part : List Char) (sizing : Sizing) (least : Length) :
    Prop := ∃ core, Text.IsPadded core part ∧ DenotesSize between core sizing least

/-- The part is the name of the alignment in letters of any case, with blanks around it. -/
def IsAlignmentPart (part : List Char) (a : Alignment) : Prop :=
  ∃ core, Text.IsPadded core part ∧ Spells a.name core

/-- The part is a percentage with or without a sign, with blanks around it. -/
def IsWeightPart (part : List Char) (weight : Nat) : Prop :=
  ∃ core, Text.IsPadded core part ∧ Text.WritesInt core weight ∧ weight ≤ maxWeight

/-- The parts denote the track: a size alone, with an alignment before it, a weight behind it, or
both. An alignment that is missing is the default one, and a weight that is missing is zero. -/
inductive DenotedBy (between : List Char → Prop) (default : Alignment) (t : Track) :
    List (List Char) → Prop
  | size {s : List Char} : IsSizePart between s t.sizing t.minimum → t.alignment = default →
    t.weight = 0 → DenotedBy between default t [s]
  | alignmentSize {a s : List Char} : IsAlignmentPart a t.alignment →
    IsSizePart between s t.sizing t.minimum → t.weight = 0 → DenotedBy between default t [a, s]
  | sizeWeight {s w : List Char} : IsSizePart between s t.sizing t.minimum →
    IsWeightPart w t.weight → t.alignment = default → DenotedBy between default t [s, w]
  | alignmentSizeWeight {a s w : List Char} : IsAlignmentPart a t.alignment →
    IsSizePart between s t.sizing t.minimum → IsWeightPart w t.weight →
      DenotedBy between default t [a, s, w]

/-- The specification consists of parts with slashes between them, which denote the track. -/
def Specifies (between : List Char → Prop) (default : Alignment) (spec : List Char) (t : Track) :
    Prop :=
  ∃ parts, spec = Text.joinWith ['/'] parts ∧ (∀ part ∈ parts, '/' ∉ part) ∧
    DenotedBy between default t parts

/-! ## Words between blanks -/

theorem isPadded_spells_iff {name : String} (hname : ∀ c ∈ name.toList, IsLetter c)
    {part : List Char} :
    Spells name (Text.trim part) ↔ ∃ core, Text.IsPadded core part ∧ Spells name core := by
  constructor
  · intro h
    exact ⟨_, Text.isPadded_trim part, h⟩
  · rintro ⟨core, hpadded, h⟩
    have hcore : Text.trim core = core :=
      Text.trim_of_forall fun c hc => (h.isLetter hname c hc).isBlank
    rwa [Text.trim_of_isPadded hpadded, hcore]

theorem alignment_read_eq_ok_iff {part : List Char} {a : Alignment} :
    Alignment.read part = .ok a ↔ IsAlignmentPart part a :=
  Alignment.read_eq_ok_iff.trans (isPadded_spells_iff a.isLetter_name)

theorem writesInt_not_isBlank {s : List Char} {n : Int} (h : Text.WritesInt s n) :
    ∀ c ∈ s, Text.isBlank c = false := by
  have hdigits {s : List Char} {n : Nat} (h : Text.WritesNat s n) :
      ∀ c ∈ s, Text.isBlank c = false := fun c hc => Text.isBlank_of_isDigit (h.2.1 c hc)
  cases h with
  | plain h => exact hdigits h
  | plus h => exact List.forall_mem_cons.2 ⟨rfl, hdigits h⟩
  | minus h => exact List.forall_mem_cons.2 ⟨rfl, hdigits h⟩

/-! ## Weights -/

/-- Percentages are far from the bounds of 64 bits. -/
theorem intOfBits?_eq_some_iff {s : List Char} {weight : Weight} :
    Text.intOfBits? 64 s = some (weight.val : Int) ↔ Text.WritesInt s (weight.val : Int) := by
  obtain ⟨w, hw⟩ := weight
  have hhigh : w < 9223372036854775808 := Nat.lt_of_le_of_lt hw (by decide)
  rw [← Text.int?_eq_some_iff, Text.intOfBits?, Option.filter_eq_some_iff]
  simp [hhigh]

theorem readWeight_eq_ok_iff {part : List Char} {weight : Weight} :
    readWeight part = .ok weight ↔ IsWeightPart part weight := by
  have hread : readWeight part = .ok weight ↔
      Text.intOfBits? 64 (Text.trim part) = some (weight.val : Int) := by
    unfold readWeight
    split
    · next h => simp [h]
    · next n h =>
      rw [h, Option.some.injEq, ← Weight.ofInt?_eq_some_iff]
      split
      · next w hw => simp [hw]
      · next hw => simp [hw]
  rw [hread, intOfBits?_eq_some_iff]
  constructor
  · intro h
    exact ⟨_, Text.isPadded_trim part, h, weight.property⟩
  · rintro ⟨core, hpadded, h, -⟩
    rwa [Text.trim_of_isPadded hpadded, Text.trim_of_forall (writesInt_not_isBlank h)]

/-! ## Sizes -/

theorem leastSize_read_eq_ok_iff {s : List Char} {least : LeastSize} :
    LeastSize.read s = .ok least ↔ Length.read s = .ok least.val := by
  constructor
  · intro h
    unfold LeastSize.read at h
    split at h
    · next l hl =>
      obtain rfl := Except.ok.inj h
      exact hl
    · cases h
  · intro h
    exact leastSize_read_of_read h

/-- The text of a size neither starts nor ends with a blank, unless it is a length. -/
theorem isSizePart_iff {between : List Char → Prop} {part : List Char} {sizing : Sizing}
    {least : Length} :
    IsSizePart between part sizing least ↔ DenotesSize between (Text.trim part) sizing least := by
  constructor
  · rintro ⟨core, hpadded, h⟩
    rw [Text.trim_of_isPadded hpadded]
    cases h with
    | keyword hword hfixed =>
      rw [Text.trim_of_forall fun c hc => (hword.isLetter sizing.isLetter_name c hc).isBlank]
      exact .keyword hword hfixed
    | @keywordLength word gap inner _ _ hword hgap hinner =>
      obtain ⟨c, rest, rfl⟩ := List.exists_cons_of_ne_nil (hword.ne_nil sizing.name_ne_nil)
      have hc := (hword.isLetter sizing.isLetter_name c (by simp)).isBlank
      have hlast : (c :: rest ++ gap ++ '(' :: (inner ++ [')'])).getLast? = some ')' := by
        rw [← List.cons_append, ← List.append_assoc, List.getLast?_concat]
      have htrim : Text.trim (c :: rest ++ gap ++ '(' :: (inner ++ [')'])) =
          c :: rest ++ gap ++ '(' :: (inner ++ [')']) := by
        refine Text.trim_eq_self (by simpa using hc) fun d hd => ?_
        rw [hlast] at hd
        obtain rfl := Option.some.inj hd
        rfl
      rw [htrim]
      exact .keywordLength hword hgap hinner
    | length hread => exact .length (Length.read_eq_ok_of_trim_eq (Text.trim_trim _).symm hread)
  · intro h
    exact ⟨_, Text.isPadded_trim part, h⟩

/-- The text before the first parenthesis and the one from there on. -/
theorem takeWhile_dropWhile_of_notMem {keyword : List Char} (h : '(' ∉ keyword)
    (rest : List Char) :
    (keyword ++ '(' :: rest).takeWhile (· != '(') = keyword ∧
      (keyword ++ '(' :: rest).dropWhile (· != '(') = '(' :: rest := by
  have hkeyword : ∀ c ∈ keyword, (c != '(') = true := by
    intro c hc
    refine bne_iff_ne.2 ?_
    rintro rfl
    exact h hc
  rw [List.takeWhile_append_of_pos hkeyword, List.dropWhile_append_of_pos hkeyword]
  simp

/-- What is read as a size is one. -/
theorem isSizePart_of_readSize {part : List Char} {size : Sizing × LeastSize}
    (h : readSize part = .ok size) :
    IsSizePart Text.IsBlankText part size.1 size.2.val := by
  have hpadded := Text.isPadded_trim part
  have hsplit := List.takeWhile_append_dropWhile (p := (· != '(')) (l := Text.trim part)
  unfold readSize readSizeWith at h
  simp only at h
  split at h
  · next c inner hkeyword hinner =>
    split at h
    · next hlast =>
      obtain ⟨sizing, hsizing, h⟩ := bind_eq_ok_iff.1 h
      obtain ⟨least, hleast, h⟩ := bind_eq_ok_iff.1 h
      obtain rfl := Except.ok.inj h
      obtain rfl : c = '(' := by
        have hhead := List.head?_dropWhile_not (· != '(') (Text.trim part)
        rw [hinner] at hhead
        simpa using hhead
      obtain ⟨inner, rfl⟩ := List.getLast?_eq_some_iff.1 hlast
      rw [List.dropLast_concat] at hleast
      generalize (Text.trim part).takeWhile (· != '(') = keyword at hsplit hsizing
      obtain ⟨lead, gap, hlead, hgap, hword⟩ := Text.isPadded_trim keyword
      have hcore : Text.trim part =
          lead ++ (Text.trim keyword ++ gap ++ '(' :: (inner ++ [')'])) := by
        rw [← hsplit, hinner, ← List.append_assoc, ← List.append_assoc, ← hword]
      rw [hcore] at hpadded
      exact ⟨_, hpadded.of_append hlead, .keywordLength (Sizing.read_eq_ok_iff.1 hsizing) hgap
        (leastSize_read_eq_ok_iff.1 hleast)⟩
    · cases h
  · split at h
    · cases h
    · next sizing hfixed hsizing =>
      obtain rfl := Except.ok.inj h
      rw [Sizing.read_eq_ok_iff, Text.trim_trim] at hsizing
      exact ⟨_, hpadded, .keyword hsizing hfixed⟩
    · split at h
      · next least hleast =>
        obtain rfl := Except.ok.inj h
        exact ⟨_, hpadded, .length (leastSize_read_eq_ok_iff.1 hleast)⟩
      · cases h

/-- A text without a parenthesis is a keyword or a length. -/
theorem readSize_of_notMem {part : List Char} (h : '(' ∉ Text.trim part) :
    readSize part = match Sizing.read (Text.trim part) with
      | .ok .fixed => .error (.unreadable (String.ofList part) .noMinimum)
      | .ok sizing => .ok (sizing, .zero)
      | .error _ => match LeastSize.read (Text.trim part) with
        | .ok least => .ok (.fixed, least)
        | .error _ => .error (.unreadable (String.ofList part) .invalidSize) := by
  have hdrop : (Text.trim part).dropWhile (· != '(') = [] := by
    refine List.dropWhile_eq_nil_iff.2 fun c hc => bne_iff_ne.2 ?_
    rintro rfl
    exact h hc
  unfold readSize readSizeWith
  simp only [hdrop]
  split
  · next hcons => cases hcons
  · cases hsizing : Sizing.read (Text.trim part) with
    | ok sizing => cases sizing <;> rfl
    | error fault => cases LeastSize.read (Text.trim part) <;> rfl

/-- What is a size is read as one. -/
theorem readSize_of_isSizePart {part : List Char} {sizing : Sizing} {least : LeastSize}
    (h : IsSizePart Text.IsBlankText part sizing least.val) :
    readSize part = .ok (sizing, least) := by
  have hdenotes := isSizePart_iff.1 h
  generalize htext : Text.trim part = text at hdenotes
  generalize hleast : least.val = l at hdenotes
  cases hdenotes with
  | keyword hword hfixed =>
    have hopen : '(' ∉ text := fun hmem =>
      absurd (hword.isLetter sizing.isLetter_name _ hmem) (by decide)
    have hsizing : Sizing.read text = .ok sizing := by
      rw [Sizing.read_eq_ok_iff, ← htext, Text.trim_trim, htext]
      exact hword
    obtain rfl : least = .zero := Subtype.ext hleast
    rw [readSize_of_notMem (htext ▸ hopen), htext, hsizing]
    cases sizing with
    | fixed => exact absurd rfl hfixed
    | minimum => rfl
    | preferred => rfl
  | @keywordLength word gap inner _ _ hword hgap hread =>
    have hopen : '(' ∉ word ++ gap := by
      rw [List.mem_append, not_or]
      exact ⟨fun hmem => absurd (hword.isLetter sizing.isLetter_name _ hmem) (by decide),
        fun hmem => absurd (hgap _ hmem) (by decide)⟩
    have hsizing : Sizing.read (word ++ gap) = .ok sizing := by
      have hpadded : Text.IsPadded word (word ++ gap) :=
        ⟨[], gap, by simp [Text.IsBlankText], hgap, rfl⟩
      rw [Sizing.read_eq_ok_iff, isPadded_spells_iff sizing.isLetter_name]
      exact ⟨word, hpadded, hword⟩
    have hinner : LeastSize.read inner = .ok least :=
      leastSize_read_eq_ok_iff.2 (hleast ▸ hread)
    have hempty : (word ++ gap).isEmpty = false := by
      simpa using fun h => absurd h (hword.ne_nil sizing.name_ne_nil)
    obtain ⟨htake, hdrop⟩ := takeWhile_dropWhile_of_notMem hopen (inner ++ [')'])
    unfold readSize readSizeWith
    simp only [htext, htake, hdrop, hempty, List.getLast?_concat, List.dropLast_concat, hsizing,
      hinner, if_true]
    rfl
  | length hread =>
    subst hleast
    obtain ⟨whole, point, gap, token, hunit⟩ := Length.isNumeralUnit_of_read hread
    have htrim : Text.trim text = text := by rw [← htext, Text.trim_trim]
    rw [htrim] at hunit
    have hsizing {other : Sizing} : Sizing.read text ≠ .ok other := by
      intro hother
      rw [Sizing.read_eq_ok_iff, htrim] at hother
      obtain ⟨c, hc, hletter⟩ := hunit.exists_not_isLetter
      exact hletter (hother.isLetter other.isLetter_name c hc)
    rw [readSize_of_notMem (htext ▸ hunit.notMem), htext, leastSize_read_eq_ok_iff.2 hread]
    split
    · next hother => exact absurd hother hsizing
    · next hother => exact absurd hother hsizing
    · rfl

/-- **Sizes are read exactly if they are in the grammar.** -/
theorem readSize_eq_ok_iff {part : List Char} {size : Sizing × LeastSize} :
    readSize part = .ok size ↔ IsSizePart Text.IsBlankText part size.1 size.2.val :=
  ⟨isSizePart_of_readSize, readSize_of_isSizePart⟩

theorem not_denotesSize_nil {between : List Char → Prop} {sizing : Sizing} {least : Length} :
    ¬DenotesSize between [] sizing least := by
  intro h
  generalize hs : ([] : List Char) = s at h
  cases h with
  | keyword hword => exact hword.ne_nil sizing.name_ne_nil hs.symm
  | keywordLength => simp at hs
  | length hread =>
    subst hs
    cases hread

/-- No part is both the name of an alignment and a size. -/
theorem not_isSizePart_of_isAlignmentPart {between : List Char → Prop} {part : List Char}
    {a : Alignment} (h : IsAlignmentPart part a) (sizing : Sizing) (least : Length) :
    ¬IsSizePart between part sizing least := by
  intro hsize
  have hspells : Spells a.name (Text.trim part) := (isPadded_spells_iff a.isLetter_name).2 h
  have hletter := hspells.isLetter a.isLetter_name
  have hdenotes := isSizePart_iff.1 hsize
  generalize htext : Text.trim part = text at hspells hletter hdenotes
  cases hdenotes with
  | keyword hword =>
    have hname : Text.lowercase a.name.toList = Text.lowercase sizing.name.toList :=
      hspells.symm.trans hword
    revert hname
    cases a <;> cases sizing <;> decide
  | keywordLength => exact absurd (hletter '(' (by simp)) (by decide)
  | length hread =>
    obtain ⟨whole, point, gap, token, hunit⟩ := Length.isNumeralUnit_of_read hread
    obtain ⟨c, hc, hother⟩ := hunit.exists_not_isLetter
    rw [← htext, Text.trim_trim, htext] at hc
    exact hother (hletter c hc)

/-! ## Whole specifications -/

/-- A track is put together if its parts are in the grammar, and from what they denote. -/
theorem assemble_eq_ok_iff {alignment weight : Option (List Char)} {size : Sizing × LeastSize}
    {default : Alignment} {t : Track} :
    assemble alignment size weight default = .ok t ↔
      (∀ part ∈ alignment, IsAlignmentPart part t.alignment) ∧
        (alignment = none → t.alignment = default) ∧ (size.1 = t.sizing ∧ size.2.val = t.minimum) ∧
        (∀ part ∈ weight, IsWeightPart part t.weight) ∧ (weight = none → t.weight = 0) := by
  obtain ⟨a, sizing, minimum, w, hminimum, hw⟩ := t
  have halignment : alignment.elim (pure default) Alignment.read = .ok a ↔
      (∀ part ∈ alignment, IsAlignmentPart part a) ∧ (alignment = none → a = default) := by
    cases alignment with
    | none => simp [pure, Except.pure, eq_comm]
    | some part => simp [alignment_read_eq_ok_iff]
  have hweight : weight.elim (pure .zero) readWeight = .ok (⟨w, hw⟩ : Weight) ↔
      (∀ part ∈ weight, IsWeightPart part w) ∧ (weight = none → w = 0) := by
    cases weight with
    | none => simp [pure, Except.pure, Weight.zero, eq_comm]
    | some part => simp [readWeight_eq_ok_iff]
  have hsteps : assemble alignment size weight default =
      alignment.elim (pure default) Alignment.read >>= fun a =>
        weight.elim (pure .zero) readWeight >>= fun w =>
          .ok ⟨a, size.1, size.2.val, w.val, size.2.property, w.property⟩ := by
    cases alignment <;> cases weight <;> rfl
  rw [← and_assoc, ← halignment, ← hweight, hsteps]
  constructor
  · intro h
    obtain ⟨a', ha, h⟩ := bind_eq_ok_iff.1 h
    obtain ⟨w', hread, h⟩ := bind_eq_ok_iff.1 h
    obtain ⟨rfl, rfl, rfl, rfl⟩ := Track.mk.inj (Except.ok.inj h)
    exact ⟨ha, ⟨rfl, rfl⟩, hread⟩
  · rintro ⟨ha, ⟨rfl, rfl⟩, hw⟩
    exact bind_eq_ok_iff.2 ⟨_, ha, bind_eq_ok_iff.2 ⟨_, hw, rfl⟩⟩

/-- The parts of a specification are those between its slashes. -/
theorem specifies_iff {between : List Char → Prop} {default : Alignment} {spec : List Char}
    {t : Track} :
    Specifies between default spec t ↔
      DenotedBy between default t (Text.split (· == '/') spec) := by
  constructor
  · rintro ⟨parts, rfl, hslash, h⟩
    have hne : parts ≠ [] := by
      rintro rfl
      cases h
    rwa [Text.split_eq_iff.2 ⟨hne, rfl, hslash⟩]
  · intro h
    obtain ⟨-, heq, hslash⟩ := Text.split_eq_iff.1 (rfl : Text.split (· == '/') spec = _)
    exact ⟨_, heq, hslash, h⟩

/-- A blank text has only itself for a part. -/
theorem split_of_trim_eq_nil {spec : List Char} (h : Text.trim spec = []) :
    Text.split (· == '/') spec = [spec] := by
  obtain ⟨lead, trail, hlead, htrail, hspec⟩ := Text.isPadded_trim spec
  rw [h, List.append_nil] at hspec
  refine Text.split_of_forall fun c hc => beq_false_of_ne ?_
  rintro rfl
  rw [hspec] at hc
  rcases List.mem_append.1 hc with hc | hc
  · exact absurd (hlead _ hc) (by decide)
  · exact absurd (htrail _ hc) (by decide)

/-- There is something in a specification. -/
theorem trim_ne_nil_of_specifies {between : List Char → Prop} {default : Alignment}
    {spec : List Char} {t : Track} (h : Specifies between default spec t) :
    Text.trim spec ≠ [] := by
  intro hnil
  rw [specifies_iff, split_of_trim_eq_nil hnil] at h
  cases h with
  | size hsize =>
    have hdenotes := isSizePart_iff.1 hsize
    rw [hnil] at hdenotes
    exact not_denotesSize_nil hdenotes

/-- **The reader accepts the grammar** and reads from each specification the track that it
denotes. -/
theorem read_eq_ok_iff {spec : List Char} {default : Alignment} {t : Track} :
    read spec default = .ok t ↔ Specifies Text.IsBlankText default spec t := by
  by_cases hempty : Text.trim spec = []
  · have hnot : ¬Specifies Text.IsBlankText default spec t := fun h =>
      trim_ne_nil_of_specifies h hempty
    simp [read, hempty, hnot]
  rw [specifies_iff, read, if_neg (by simpa using hempty)]
  constructor
  · have hsize {part : List Char} {found : Sizing × LeastSize} (h : readSize part = .ok found)
        (hfound : found.1 = t.sizing ∧ found.2.val = t.minimum) :
        IsSizePart Text.IsBlankText part t.sizing t.minimum := by
      rw [← hfound.1, ← hfound.2]
      exact readSize_eq_ok_iff.1 h
    intro h
    split at h
    · next size hsplit =>
      obtain ⟨found, hread, h⟩ := bind_eq_ok_iff.1 h
      obtain ⟨-, ha, hfound, -, hw⟩ := assemble_eq_ok_iff.1 h
      exact hsplit ▸ .size (hsize hread hfound) (ha rfl) (hw rfl)
    · next first second hsplit =>
      split at h
      · next found hread =>
        obtain ⟨-, ha, hfound, hw, -⟩ := assemble_eq_ok_iff.1 h
        exact hsplit ▸ .sizeWeight (hsize hread hfound) (hw _ rfl) (ha rfl)
      · obtain ⟨found, hread, h⟩ := bind_eq_ok_iff.1 h
        obtain ⟨ha, -, hfound, -, hw⟩ := assemble_eq_ok_iff.1 h
        exact hsplit ▸ .alignmentSize (ha _ rfl) (hsize hread hfound) (hw rfl)
    · next alignment size weight hsplit =>
      obtain ⟨found, hread, h⟩ := bind_eq_ok_iff.1 h
      obtain ⟨ha, -, hfound, hw, -⟩ := assemble_eq_ok_iff.1 h
      exact hsplit ▸ .alignmentSizeWeight (ha _ rfl) (hsize hread hfound) (hw _ rfl)
    · cases h
  · have hsize {part : List Char} (h : IsSizePart Text.IsBlankText part t.sizing t.minimum) :
        readSize part = .ok (t.sizing, ⟨t.minimum, t.minimum_nonneg⟩) := readSize_eq_ok_iff.2 h
    intro h
    generalize Text.split (· == '/') spec = parts at h
    cases h with
    | size hs ha hw =>
      exact bind_eq_ok_iff.2 ⟨_, hsize hs, assemble_eq_ok_iff.2 (by simp [ha, hw])⟩
    | @alignmentSize a s ha hs hw =>
      have hassemble : assemble (some a) (t.sizing, ⟨t.minimum, t.minimum_nonneg⟩) none default =
          .ok t := assemble_eq_ok_iff.2 (by simp [ha, hw])
      cases hfirst : readSize a with
      | ok found =>
        exact absurd (readSize_eq_ok_iff.1 hfirst) (not_isSizePart_of_isAlignmentPart ha _ _)
      | error fault =>
        simp only [hfirst]
        exact bind_eq_ok_iff.2 ⟨_, hsize hs, hassemble⟩
    | sizeWeight hs hw ha =>
      simp only [hsize hs]
      exact assemble_eq_ok_iff.2 (by simp [ha, hw])
    | alignmentSizeWeight ha hs hw =>
      exact bind_eq_ok_iff.2 ⟨_, hsize hs, assemble_eq_ok_iff.2 (by simp [ha, hw])⟩

/-! ## The order of the attempts -/

/-- Reading with a first of two parts taken for an alignment if it can be one. -/
def readAlignmentFirst (spec : List Char) (default : Alignment) : Except LayoutError Track :=
  match Text.split (· == '/') spec with
  | [first, second] =>
    match Alignment.read first with
    | .ok _ => do assemble (some first) (← readSize second) none default
    | .error _ => read spec default
  | _ => read spec default

theorem readAlignmentFirst_eq (spec : List Char) (default : Alignment) :
    readAlignmentFirst spec default = read spec default := by
  unfold readAlignmentFirst
  split
  · next first second hsplit =>
    split
    · next a ha =>
      have hpart := alignment_read_eq_ok_iff.1 ha
      have hnonempty : ¬(Text.trim spec).isEmpty := by
        intro hnil
        rw [split_of_trim_eq_nil (List.isEmpty_iff.1 hnil)] at hsplit
        cases hsplit
      rw [read, if_neg hnonempty, hsplit]
      cases hfirst : readSize first with
      | ok found =>
        exact absurd (readSize_eq_ok_iff.1 hfirst) (not_isSizePart_of_isAlignmentPart hpart _ _)
      | error fault => simp only [hfirst]
    · rfl
  · rfl

/-- No size has a least size below zero, also when it is read without a check. -/
theorem isNegative_of_readSizeWith {part : List Char} {sizing : Sizing} {least : Length}
    (h : readSizeWith Length.read .zero part = .ok (sizing, least)) :
    least.value.isNegative = false := by
  unfold readSizeWith at h
  simp only at h
  split at h
  · split at h
    · obtain ⟨_, -, h⟩ := bind_eq_ok_iff.1 h
      obtain ⟨_, hleast, h⟩ := bind_eq_ok_iff.1 h
      obtain ⟨rfl, rfl⟩ := Prod.mk.inj (Except.ok.inj h)
      exact Length.isNegative_of_read hleast
    · cases h
  · split at h
    · cases h
    · obtain ⟨rfl, rfl⟩ := Prod.mk.inj (Except.ok.inj h)
      rfl
    · split at h
      · next hleast =>
        obtain ⟨rfl, rfl⟩ := Prod.mk.inj (Except.ok.inj h)
        exact Length.isNegative_of_read hleast
      · cases h

/-! ## All of it -/

/-- **The grammar is exact and unambiguous.** A specification is read exactly if it is in the
grammar, where blanks may stand around each part and between a keyword and its parenthesis, and it
is read to the track that it denotes. No text in two parts can be taken apart in both ways, so it
does not matter which one is tried first, and no size has a least size below zero. -/
theorem read_exact :
    (∀ spec default t, read spec default = .ok t ↔ Specifies Text.IsBlankText default spec t) ∧
    (∀ first second,
      ¬((∃ sizing least weight, IsSizePart Text.IsBlankText first sizing least ∧
          IsWeightPart second weight) ∧
        ∃ a sizing least, IsAlignmentPart first a ∧
          IsSizePart Text.IsBlankText second sizing least)) ∧
    (∀ spec default, readAlignmentFirst spec default = read spec default) ∧
    ∀ part sizing least, readSizeWith Length.read .zero part = .ok (sizing, least) →
      least.value.isNegative = false := by
  refine ⟨fun _ _ _ => read_eq_ok_iff, ?_, readAlignmentFirst_eq, fun _ _ _ =>
    isNegative_of_readSizeWith⟩
  rintro first second ⟨⟨sizing, least, weight, hsize, -⟩, a, -, -, ha, -⟩
  exact not_isSizePart_of_isAlignmentPart ha sizing least hsize

theorem read_exact_signed :
    Specifies Text.IsBlankText .fill " Start / minimum\t/ +30".toList
        ⟨.leading, .minimum, .zero, 30, rfl, by decide⟩ ∧
      (Length.pixels 5).value.isNegative = false :=
  ⟨(read_exact.1 _ _ _).1 (by decide +kernel),
    read_exact.2.2.2 "5".toList .fixed (.pixels 5) (by decide +kernel)⟩

/-- A blank between a keyword and its parenthesis is read, although nothing stands there if texts
are taken literally. -/
theorem read_blank_before_parenthesis :
    ∃ t, read "none (5)".toList .fill = .ok t ∧ ¬Specifies (· = []) .fill "none (5)".toList t := by
  have hread : ((read "none (5)".toList .fill).map Track.sizing) = .ok .fixed := by decide +kernel
  cases h : read "none (5)".toList .fill with
  | error fault =>
    rw [h] at hread
    cases hread
  | ok t =>
    rw [h] at hread
    have hfixed : t.sizing = .fixed := Except.ok.inj hread
    refine ⟨t, rfl, fun hspecifies => ?_⟩
    have hsplit : Text.split (· == '/') "none (5)".toList = ["none (5)".toList] := by decide
    rw [specifies_iff, hsplit] at hspecifies
    cases hspecifies with
    | size hsize =>
      have hdenotes := isSizePart_iff.1 hsize
      rw [hfixed] at hdenotes
      generalize htext : Text.trim "none (5)".toList = text at hdenotes
      generalize t.minimum = least at hdenotes
      cases hdenotes with
      | keyword _ hother => exact hother rfl
      | @keywordLength word gap inner _ _ hword hgap =>
        have hletter := hword.isLetter (Sizing.isLetter_name .fixed)
        have hopen : '(' ∉ word := fun hmem => absurd (hletter _ hmem) (by decide)
        have htake := (takeWhile_dropWhile_of_notMem hopen (inner ++ [')'])).1
        rw [hgap, List.append_nil] at htext
        rw [← htext] at htake
        have hblank : ' ' ∈ word := by
          rw [← htake]
          decide
        exact absurd (hletter _ hblank) (by decide)
      | length hlength =>
        obtain ⟨whole, point, gap, token, hunit⟩ := Length.isNumeralUnit_of_read hlength
        rw [← htext, Text.trim_trim] at hunit
        exact hunit.notMem (by decide)

end Track

end GridLayout

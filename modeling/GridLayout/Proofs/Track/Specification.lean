import GridLayout.Track.Reader
import GridLayout.Proofs.Length.Canonical
import GridLayout.Proofs.Steps

/-!
# Specifications read back

The canonical specification of a track has three parts, none of which contains a slash or a blank,
so it is taken apart as it was put together, alone and in a list. Reading it back therefore depends
on nothing but its least size.

* `Track.read_toSpec_eq`: reading a canonical specification is reading its least size.
* `Track.read_toSpec_and_readList`: tracks with a finite least size are read back, and so are lists
  of them with any separators.
* `Track.read_toText_iff_of_read`: of the lengths and tracks that were read themselves, only the
  infinite ones are written so that they cannot be read again.
-/

namespace GridLayout

theorem Weight.ofInt?_eq_some_iff {n : Int} {weight : Weight} :
    ofInt? n = some weight ↔ n = weight.val := by
  obtain ⟨w, hw⟩ := weight
  unfold ofInt?
  split
  · next h =>
    simp only [Option.some.injEq, Subtype.mk.injEq]
    omega
  · next h =>
    simp only [reduceCtorEq, false_iff]
    rintro rfl
    exact h ⟨Int.natCast_nonneg w, by simpa using hw⟩

namespace Track

/-! ## Characters -/

/-- The character may stand inside a word of a specification. -/
def IsPlain (c : Char) : Prop :=
  Text.isBlank c = false ∧ isSeparator c = false ∧ c ≠ '/' ∧ c ≠ '('

instance (c : Char) : Decidable (IsPlain c) := inferInstanceAs (Decidable (_ ∧ _))

theorem isPlain_of_isDigit {c : Char} (h : c.isDigit = true) : IsPlain c := by
  obtain ⟨hlow, hhigh⟩ := Text.isDigit_iff.1 h
  have hne {d : Char} (hd : d.toNat < 48) : c ≠ d := by
    rintro rfl
    omega
  refine ⟨Text.isBlank_of_isDigit h, ?_, hne (by decide), hne (by decide)⟩
  have hspace : c ≠ ' ' := hne (by decide)
  have hcomma : c ≠ ',' := hne (by decide)
  have hsemicolon : c ≠ ';' := by
    rintro rfl
    exact absurd hhigh (by decide)
  simp [isSeparator, hspace, hcomma, hsemicolon]

theorem isPlain_decimal (d : Decimal) : ∀ c ∈ d.toChars, IsPlain c := by
  intro c hc
  rw [d.toChars_eq] at hc
  rcases List.mem_append.1 hc with hc | hc
  · exact isPlain_of_isDigit (d.isDigit_of_mem_wholeDigits hc)
  · split at hc
    · cases hc
    · rcases List.mem_cons.1 hc with rfl | hc
      · decide
      · exact isPlain_of_isDigit (d.isDigit_of_mem_fractionDigits hc)

theorem isPlain_binary64 (x : Binary64) : ∀ c ∈ x.toChars, IsPlain c := by
  cases x with
  | finite negative m =>
    intro c hc
    rcases List.mem_append.1 hc with hc | hc
    · cases negative with
      | false => cases hc
      | true =>
        obtain rfl := List.mem_singleton.1 hc
        decide
    · exact isPlain_decimal _ c hc
  | infinite negative =>
    refine List.all_iff_forall_prop.1 ?_
    cases negative <;> decide
  | nan => exact List.all_iff_forall_prop.1 (by decide)

/-- The text of a length is a single word. -/
theorem isPlain_length (l : Length) : ∀ c ∈ l.toText.toList, IsPlain c := by
  intro c hc
  rw [Length.toText, String.toList_ofList, List.mem_append] at hc
  rcases hc with hc | hc
  · simp only [Length.valueChars] at hc
    split at hc
    · exact isPlain_binary64 _ c hc
    · rcases List.mem_append.1 hc with hc | hc
      · exact isPlain_binary64 _ c hc
      · have hplain : ∀ c ∈ ['.', '0'], IsPlain c := List.all_iff_forall_prop.1 (by decide)
        exact hplain c hc
  · have hplain : ∀ c ∈ l.unit.name.toList, IsPlain c := by
      refine List.all_iff_forall_prop.1 ?_
      cases l.unit <;> decide
    exact hplain c hc

theorem isPlain_alignment (a : Alignment) : ∀ c ∈ a.name.toList, IsPlain c := by
  refine List.all_iff_forall_prop.1 ?_
  cases a <;> decide

theorem isPlain_sizing (s : Sizing) : ∀ c ∈ s.name.toList, IsPlain c := by
  refine List.all_iff_forall_prop.1 ?_
  cases s <;> decide

/-! ## Parts -/

variable (t : Track)

/-- The part with the size. -/
def sizePart : List Char :=
  t.sizing.name.toList ++ '(' :: (t.minimum.toText.toList ++ [')'])

/-- The canonical specification in parts. -/
theorem toSpec_eq : t.toSpec.toList =
    t.alignment.name.toList ++ '/' :: (t.sizePart ++ '/' :: Nat.toDigits 10 t.weight) := by
  simp [toSpec, sizePart, String.toList_append, Nat.toString_eq_repr]

/-- Besides plain characters there are only parentheses in it. -/
theorem isPlain_or_of_mem_sizePart {c : Char} (hc : c ∈ t.sizePart) :
    IsPlain c ∨ c = '(' ∨ c = ')' := by
  simp only [sizePart, List.mem_append, List.mem_cons, List.not_mem_nil, or_false] at hc
  rcases hc with hc | hc | hc | hc
  · exact .inl (isPlain_sizing t.sizing c hc)
  · exact .inr (.inl hc)
  · exact .inl (isPlain_length t.minimum c hc)
  · exact .inr (.inr hc)

theorem toSpec_ne_nil : t.toSpec.toList ≠ [] := by
  simp [toSpec_eq]

/-- A canonical specification is a single word. -/
theorem not_blank_of_mem_toSpec {c : Char} (hc : c ∈ t.toSpec.toList) :
    Text.isBlank c = false ∧ isSeparator c = false := by
  rw [toSpec_eq, List.mem_append, List.mem_cons, List.mem_append, List.mem_cons] at hc
  have hplain (h : IsPlain c) : Text.isBlank c = false ∧ isSeparator c = false := ⟨h.1, h.2.1⟩
  rcases hc with hc | rfl | hc | rfl | hc
  · exact hplain (isPlain_alignment t.alignment c hc)
  · exact ⟨rfl, rfl⟩
  · rcases t.isPlain_or_of_mem_sizePart hc with hc | rfl | rfl
    · exact hplain hc
    · exact ⟨rfl, rfl⟩
    · exact ⟨rfl, rfl⟩
  · exact ⟨rfl, rfl⟩
  · exact hplain (isPlain_of_isDigit (Text.isDigit_toDigits hc))

/-! ## Reading back -/

/-- Reading the part with the size is reading the least size in it. -/
theorem readSize_sizePart :
    readSize t.sizePart =
      (LeastSize.read t.minimum.toText.toList).map fun least => (t.sizing, least) := by
  obtain ⟨hkeyword, hsizing⟩ : t.sizing.name.toList.isEmpty = false ∧
      Sizing.read t.sizing.name.toList = .ok t.sizing := by
    cases t.sizing <;> decide
  have htrim : Text.trim t.sizePart = t.sizePart := by
    apply Text.trim_of_forall
    intro c hc
    rcases t.isPlain_or_of_mem_sizePart hc with hplain | rfl | rfl
    · exact hplain.1
    · rfl
    · rfl
  have hopen : ∀ c ∈ t.sizing.name.toList, (c != '(') = true := by
    intro c hc
    exact bne_iff_ne.2 (isPlain_sizing t.sizing c hc).2.2.2
  have htake : t.sizePart.takeWhile (· != '(') = t.sizing.name.toList := by
    rw [sizePart, List.takeWhile_append_of_pos hopen]
    simp
  have hdrop : t.sizePart.dropWhile (· != '(') = '(' :: (t.minimum.toText.toList ++ [')']) := by
    rw [sizePart, List.dropWhile_append_of_pos hopen]
    simp
  unfold readSize readSizeWith
  simp only [htrim, htake, hdrop, hkeyword, List.getLast?_concat, List.dropLast_concat, hsizing,
    if_true]
  cases LeastSize.read t.minimum.toText.toList <;> rfl

theorem readWeight_toDigits (weight : Weight) :
    readWeight (Nat.toDigits 10 weight.val) = .ok weight := by
  obtain ⟨n, hn⟩ := weight
  have htrim : Text.trim (Nat.toDigits 10 n) = Nat.toDigits 10 n :=
    Text.trim_of_forall fun c hc => Text.isBlank_of_isDigit (Text.isDigit_toDigits hc)
  have hint : Text.intOfBits? 64 (Nat.toDigits 10 n) = some (n : Int) := by
    apply Text.intOfBits?_toDigits
    exact Nat.lt_of_le_of_lt hn (by decide)
  simp [readWeight, htrim, hint, Weight.ofInt?, hn]

theorem read_alignment (a : Alignment) : Alignment.read a.name.toList = .ok a := by
  cases a <;> decide

/-- Reading a canonical specification is reading the least size in it. -/
theorem read_toSpec_eq (default : Alignment) :
    read t.toSpec.toList default = (LeastSize.read t.minimum.toText.toList).map fun least =>
      { t with minimum := least.val, minimum_nonneg := least.property } := by
  have htrim : (Text.trim t.toSpec.toList).isEmpty = false := by
    rw [Text.trim_of_forall fun c hc => (t.not_blank_of_mem_toSpec hc).1]
    simpa using t.toSpec_ne_nil
  have hsplit : Text.split (· == '/') t.toSpec.toList =
      [t.alignment.name.toList, t.sizePart, Nat.toDigits 10 t.weight] := by
    rw [toSpec_eq, Text.split_append_cons _ rfl, Text.split_append_cons _ rfl,
      Text.split_of_forall]
    · intro c hc
      exact beq_false_of_ne (isPlain_of_isDigit (Text.isDigit_toDigits hc)).2.2.1
    · intro c hc
      rcases t.isPlain_or_of_mem_sizePart hc with hplain | rfl | rfl
      · exact beq_false_of_ne hplain.2.2.1
      · rfl
      · rfl
    · intro c hc
      exact beq_false_of_ne (isPlain_alignment t.alignment c hc).2.2.1
  have hweight := readWeight_toDigits ⟨t.weight, t.weight_le⟩
  unfold read
  simp only [htrim, hsplit, readSize_sizePart]
  cases LeastSize.read t.minimum.toText.toList with
  | error fault => rfl
  | ok least =>
    simp [assemble, read_alignment, hweight, Except.map, bind, Except.bind, pure, Except.pure]

theorem leastSize_read_of_read {s : List Char} {l : Length} (h : Length.read s = .ok l) :
    LeastSize.read s = .ok ⟨l, Length.isNegative_of_read h⟩ := by
  unfold LeastSize.read
  split
  · next l' h' =>
    obtain rfl := Except.ok.inj (h.symm.trans h')
    rfl
  · next e h' => cases h.symm.trans h'

theorem leastSize_read_of_error {s : List Char} {fault : LayoutError}
    (h : Length.read s = .error fault) : LeastSize.read s = .error fault := by
  unfold LeastSize.read
  split
  · next l h' => cases h.symm.trans h'
  · next e h' =>
    obtain rfl := Except.error.inj (h.symm.trans h')
    rfl

variable {t}

/-- The canonical specification of a track with a finite least size is read back. -/
theorem read_toSpec (h : t.minimum.value.HasNumeral) (default : Alignment) :
    read t.toSpec.toList default = .ok t := by
  rw [read_toSpec_eq, leastSize_read_of_read (Length.read_toText h)]
  rfl

/-- Canonical specifications with runs of separators around and between them are read back as a
list. -/
theorem readList_flatMap {lead : List Char} {items : List (Track × List Char)} (hne : items ≠ [])
    (hlead : ∀ c ∈ lead, isSeparator c = true)
    (hrun : ∀ item ∈ items, ∀ c ∈ item.2, isSeparator c = true)
    (hbetween : ∀ item ∈ items.dropLast, item.2 ≠ [])
    (hnumeral : ∀ item ∈ items, item.1.minimum.value.HasNumeral) (default : Alignment) :
    readList (lead ++ items.flatMap fun item => item.1.toSpec.toList ++ item.2) default =
      .ok (items.map Prod.fst) := by
  have hwords : Text.words isSeparator
      (lead ++ items.flatMap fun item => item.1.toSpec.toList ++ item.2) =
        (items.map Prod.fst).map fun t => t.toSpec.toList := by
    rw [Text.words_append_of_forall hlead, Text.words_flatMap (fun t : Track => t.toSpec.toList) _
      hrun hbetween, List.map_map]
    · rfl
    · intro item _
      exact ⟨item.1.toSpec_ne_nil, fun c hc => (item.1.not_blank_of_mem_toSpec hc).2⟩
  have htracks : (items.map Prod.fst).isEmpty = false := by
    simpa using hne
  have hread : ((items.map Prod.fst).map fun t => t.toSpec.toList).mapM
      (fun word => read word default) = .ok (items.map Prod.fst) := by
    rw [List.map_map, List.mapM_map]
    apply mapM_eq_pure
    intro item hitem
    rw [Function.comp_apply, Function.comp_apply]
    exact read_toSpec (hnumeral item hitem) default
  unfold readList
  rw [hwords, hread]
  simp [bind, Except.bind, htracks, pure, Except.pure]

/-- **Specifications are read back**: a track with a finite least size whose sign is clear is read
from its canonical specification bit for bit, whatever the default alignment, and so is a list of
them with any separators before, between and behind. -/
theorem read_toSpec_and_readList :
    (∀ t : Track, t.minimum.value.HasNumeral →
      ∀ default, read t.toSpec.toList default = .ok t) ∧
    ∀ (lead : List Char) (items : List (Track × List Char)) (default : Alignment), items ≠ [] →
      (∀ c ∈ lead, isSeparator c = true) →
      (∀ item ∈ items, ∀ c ∈ item.2, isSeparator c = true) →
      (∀ item ∈ items.dropLast, item.2 ≠ []) →
      (∀ item ∈ items, item.1.minimum.value.HasNumeral) →
        readList (lead ++ items.flatMap fun item => item.1.toSpec.toList ++ item.2) default =
          .ok (items.map Prod.fst) := by
  constructor
  · intro t ht default
    exact read_toSpec ht default
  · intro lead items default hne hlead hrun hbetween hnumeral
    exact readList_flatMap hne hlead hrun hbetween hnumeral default

/-- A track with the least positive double as its least size, in centimetres. -/
def subnormal : Track :=
  ⟨.trailing, .minimum, ⟨.finite false ⟨1, 0, by decide⟩, .centimetre⟩, 100, rfl, by decide⟩

/-- A track with the largest finite double as its least size, in pixels. -/
def largest : Track :=
  ⟨.center, .fixed, ⟨.finite false ⟨2 * Magnitude.leadingBit - 1, 2045, by decide⟩, .pixel⟩, 0, rfl,
    by decide⟩

/-- They are read back alone and as a list with commas, semicolons and blanks. -/
theorem read_subnormal_and_largest :
    read subnormal.toSpec.toList .fill = .ok subnormal ∧
      readList ([' '] ++ [(subnormal, [',', ' ']), (largest, [';'])].flatMap
        fun item => item.1.toSpec.toList ++ item.2) .leading = .ok [subnormal, largest] := by
  obtain ⟨hone, hlist⟩ := read_toSpec_and_readList
  refine ⟨hone subnormal ⟨_, rfl⟩ .fill,
    hlist [' '] [(subnormal, [',', ' ']), (largest, [';'])] .leading (by simp) (by simp [isSeparator])
      ?_ ?_ ?_⟩
  · simp [isSeparator]
  · simp
  · intro item hitem
    simp only [List.mem_cons, List.not_mem_nil, or_false] at hitem
    rcases hitem with rfl | rfl
    · exact ⟨_, rfl⟩
    · exact ⟨_, rfl⟩

/-! ## What was read itself -/

/-- The length stands for one that is left out, or was read from some text. -/
def WasRead (l : Length) : Prop := l = .zero ∨ ∃ s, Length.read s = .ok l

theorem wasRead_of_leastSize {s : List Char} {least : LeastSize}
    (h : LeastSize.read s = .ok least) : WasRead least.val := by
  unfold LeastSize.read at h
  split at h
  · next l hl =>
    obtain rfl := Except.ok.inj h
    exact .inr ⟨s, hl⟩
  · cases h

theorem wasRead_of_readSize {part : List Char} {size : Sizing × LeastSize}
    (h : readSize part = .ok size) : WasRead size.2.val := by
  unfold readSize readSizeWith at h
  simp only at h
  split at h
  · split at h
    · obtain ⟨sizing, -, h⟩ := bind_eq_ok_iff.1 h
      obtain ⟨least, hleast, h⟩ := bind_eq_ok_iff.1 h
      obtain rfl := Except.ok.inj h
      exact wasRead_of_leastSize hleast
    · cases h
  · split at h
    · cases h
    · obtain rfl := Except.ok.inj h
      exact .inl rfl
    · split at h
      · next hleast =>
        obtain rfl := Except.ok.inj h
        exact wasRead_of_leastSize hleast
      · cases h

theorem minimum_of_assemble {alignment weight : Option (List Char)} {size : Sizing × LeastSize}
    {default : Alignment} {t : Track} (h : assemble alignment size weight default = .ok t) :
    t.minimum = size.2.val := by
  unfold assemble at h
  simp only at h
  split at h
  · obtain ⟨a, -, h⟩ := bind_eq_ok_iff.1 h
    split at h
    · obtain ⟨w, -, h⟩ := bind_eq_ok_iff.1 h
      obtain rfl := Except.ok.inj h
      rfl
    · obtain rfl := Except.ok.inj h
      rfl
  · rw [pure_bind] at h
    split at h
    · obtain ⟨w, -, h⟩ := bind_eq_ok_iff.1 h
      obtain rfl := Except.ok.inj h
      rfl
    · obtain rfl := Except.ok.inj h
      rfl

theorem wasRead_of_assemble {alignment weight : Option (List Char)} {part : List Char}
    {default : Alignment} {t : Track}
    (h : (do assemble alignment (← readSize part) weight default) = .ok t) :
    WasRead t.minimum := by
  obtain ⟨size, hsize, h⟩ := bind_eq_ok_iff.1 h
  rw [minimum_of_assemble h]
  exact wasRead_of_readSize hsize

/-- The least size of a track that is read is left out, or read as a length. -/
theorem wasRead_of_read {spec : List Char} {default : Alignment} {t : Track}
    (h : read spec default = .ok t) : WasRead t.minimum := by
  unfold read at h
  split at h
  · cases h
  · split at h
    · exact wasRead_of_assemble h
    · split at h
      · next hsize =>
        rw [minimum_of_assemble h]
        exact wasRead_of_readSize hsize
      · exact wasRead_of_assemble h
    · exact wasRead_of_assemble h
    · cases h

/-- Such a length is finite without a sign, or infinite. -/
theorem WasRead.cases {l : Length} (h : WasRead l) :
    l.value.HasNumeral ∨ l.value = .infinite false := by
  rcases h with rfl | ⟨s, hs⟩
  · exact .inl ⟨.zero, rfl⟩
  · rw [Length.value_of_read hs]
    rcases (Length.numeral s).toBinary64_cases with ⟨-, hnumeral⟩ | ⟨-, hinfinite⟩
    · exact .inl hnumeral
    · exact .inr hinfinite

/-- An infinite double has no numeral. -/
theorem not_hasNumeral_infinite : ¬(Binary64.infinite false).HasNumeral := by
  rintro ⟨m, hm⟩
  cases hm

theorem length_read_toText_iff {l : Length} (h : WasRead l) :
    Length.read l.toText.toList = .ok l ↔ l.value ≠ .infinite false := by
  rcases h.cases with hnumeral | hinfinite
  · refine iff_of_true (Length.read_toText hnumeral) ?_
    intro hinfinite
    exact not_hasNumeral_infinite (hinfinite ▸ hnumeral)
  · refine iff_of_false ?_ (not_not.2 hinfinite)
    rw [Length.read_toText_infinite hinfinite]
    intro hok
    cases hok

/-- The text of a length that was read is read as the length exactly if the numeral was below the
overflow; otherwise it has no numeral. -/
theorem length_read_toText_of_read {text : List Char} {l : Length} (hl : Length.read text = .ok l) :
    let d := Length.numeral text
    (Length.read l.toText.toList = .ok l ↔ d.digits < Decimal.overflow * Nat.pow 10 d.places) ∧
      (Decimal.overflow * Nat.pow 10 d.places ≤ d.digits → l.value = .infinite false ∧
        Length.read l.toText.toList = .error (.unreadable l.toText .noValue)) := by
  intro d
  have hvalue := Length.value_of_read hl
  have hread := length_read_toText_iff (.inr ⟨text, hl⟩)
  rcases d.toBinary64_cases with ⟨hlt, hnumeral⟩ | ⟨hle, hinfinite⟩
  · have hfinite : l.value ≠ .infinite false := by
      intro hinfinite
      rw [← hvalue, hinfinite] at hnumeral
      exact not_hasNumeral_infinite hnumeral
    refine ⟨iff_of_true (hread.2 hfinite) hlt, ?_⟩
    intro hle
    omega
  · rw [← hvalue] at hinfinite
    refine ⟨iff_of_false (mt hread.1 (not_not.2 hinfinite)) (Nat.not_lt.2 hle), ?_⟩
    intro _
    exact ⟨hinfinite, Length.read_toText_infinite hinfinite⟩

/-- The specification of a track that was read is read as the track exactly if its least size is
finite. -/
theorem read_toSpec_of_read {text : List Char} {default : Alignment} {t : Track}
    (ht : read text default = .ok t) (default' : Alignment) :
    (read t.toSpec.toList default' = .ok t ↔ t.minimum.value ≠ .infinite false) ∧
      (t.minimum.value = .infinite false →
        read t.toSpec.toList default' = .error (.unreadable t.minimum.toText .noValue)) := by
  have hinfinite (h : t.minimum.value = .infinite false) :
      read t.toSpec.toList default' = .error (.unreadable t.minimum.toText .noValue) := by
    rw [read_toSpec_eq, leastSize_read_of_error (Length.read_toText_infinite h)]
    rfl
  refine ⟨⟨?_, ?_⟩, hinfinite⟩
  · intro hok h
    rw [hinfinite h] at hok
    cases hok
  · intro hfinite
    rcases (wasRead_of_read ht).cases with hnumeral | h
    · exact read_toSpec hnumeral default'
    · exact absurd h hfinite

/-- **What is read is written readably unless it overflows**: the canonical text of a length that
was read is read as the same length exactly if the numeral was below the overflow, and has no
numeral otherwise; and the canonical specification of a track that was read is read as the track
exactly if its least size is finite. -/
theorem read_toText_iff_of_read (text : List Char) :
    (∀ l : Length, Length.read text = .ok l →
      let d := Length.numeral text
      (Length.read l.toText.toList = .ok l ↔ d.digits < Decimal.overflow * Nat.pow 10 d.places) ∧
        (Decimal.overflow * Nat.pow 10 d.places ≤ d.digits → l.value = .infinite false ∧
          Length.read l.toText.toList = .error (.unreadable l.toText .noValue))) ∧
    ∀ (default : Alignment) (t : Track), read text default = .ok t →
      ∀ default', (read t.toSpec.toList default' = .ok t ↔ t.minimum.value ≠ .infinite false) ∧
        (t.minimum.value = .infinite false →
          read t.toSpec.toList default' = .error (.unreadable t.minimum.toText .noValue)) := by
  constructor
  · intro l hl
    exact length_read_toText_of_read hl
  · intro default t ht default'
    exact read_toSpec_of_read ht default'

/-- A one with 309 zeros, beyond all finite doubles. -/
def tooLarge : List Char := '1' :: List.replicate 309 '0'

theorem read_tooLarge : Length.read tooLarge = .ok ⟨.infinite false, .pixel⟩ := by
  decide +kernel

/-- It is read, and what is written for it is not. -/
theorem exists_unreadable :
    ∃ l, Length.read tooLarge = .ok l ∧
      Length.read l.toText.toList = .error (.unreadable "infpx" .noValue) :=
  ⟨_, read_tooLarge, Length.read_toText_infinite rfl⟩

/-- A length that is read back after rounding, one that is not, and the same for tracks. -/
theorem read_toText_inch_and_tooLarge :
    Length.read (Length.mk (Decimal.mk 15 1 |>.toBinary64 false) .inch).toText.toList =
        .ok ⟨Decimal.mk 15 1 |>.toBinary64 false, .inch⟩ ∧
      Length.read (Length.mk (.infinite false) .pixel).toText.toList =
        .error (.unreadable "infpx" .noValue) ∧
      read (preferred .center).toSpec.toList .fill = .ok (preferred .center) := by
  obtain ⟨hinch, -⟩ := read_toText_iff_of_read " 1.50 IN".toList
  obtain ⟨hlarge, -⟩ := read_toText_iff_of_read tooLarge
  obtain ⟨-, htrack⟩ := read_toText_iff_of_read " center / preferred ".toList
  refine ⟨?_, ?_, ?_⟩
  · exact (hinch _ (by decide +kernel)).1.2 (by decide +kernel)
  · exact ((hlarge _ read_tooLarge).2 (by decide +kernel)).2
  · exact (htrack .fill _ (by decide +kernel) .fill).1.2 (by decide)

end Track

end GridLayout

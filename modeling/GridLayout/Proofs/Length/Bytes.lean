import GridLayout.Proofs.Binary64.Nearest
import GridLayout.Proofs.Length.Scanned

/-!
# Reading a length byte by byte

The numeral of a length can be found in the bytes of the text: digits and the point have a byte of
their own, and no byte of another character is one of theirs. Here the reader is written down that
way. It scans the bytes, cuts the text at the place where it stopped, and hands what is in front of
it to the reader of doubles. That reader also knows signs, exponents, infinities and what is not a
number, and it may fail; but not on what was scanned.

* `Text.cutAt?` cuts a text at a place in its bytes, unless the place is inside a character.
* `Binary64.read?` reads a double, and `Length.readBytes` reads a length with it.
* `Length.readBytes_eq`: it never cuts inside a character and never lacks a double, and does what
  the reader of characters does.
* `Length.ofText_exact`: which texts are read, and as what.
-/

namespace GridLayout

/-! ## Bytes of a text -/

namespace Text

/-- The bytes of the text in UTF-8. -/
def bytes (s : List Char) : List UInt8 := s.flatMap String.utf8EncodeChar

@[simp] theorem bytes_append (s t : List Char) : bytes (s ++ t) = bytes s ++ bytes t :=
  List.flatMap_append

@[simp] theorem bytes_cons (c : Char) (s : List Char) :
    bytes (c :: s) = String.utf8EncodeChar c ++ bytes s := rfl

/-- A character of ASCII is one byte, its code. -/
theorem utf8EncodeChar_of_lt {c : Char} (h : c.toNat < 128) :
    String.utf8EncodeChar c = [UInt8.ofNat c.toNat] := by
  have hle : c.val.toNat ≤ 127 := Nat.le_of_lt_succ h
  rw [String.utf8EncodeChar, if_pos hle]
  rfl

/-- No other character begins with a byte of ASCII. -/
theorem exists_utf8EncodeChar_of_le {c : Char} (h : 128 ≤ c.toNat) :
    ∃ b rest, String.utf8EncodeChar c = b :: rest ∧ 128 ≤ b.toNat := by
  have hnot : ¬c.val.toNat ≤ 127 := Nat.not_le_of_gt h
  rw [String.utf8EncodeChar, if_neg hnot]
  split_ifs
  all_goals
    refine ⟨_, _, rfl, ?_⟩
    rw [UInt8.toNat_ofNat']
    omega

/-! ## Digits among the bytes -/

/-- The byte is a digit. -/
def isDigitByte (b : UInt8) : Bool := 48 ≤ b && b ≤ 57

theorem isDigitByte_iff {b : UInt8} : isDigitByte b = true ↔ 48 ≤ b.toNat ∧ b.toNat ≤ 57 := by
  simp only [isDigitByte, Bool.and_eq_true, decide_eq_true_eq, UInt8.le_iff_toNat_le]
  exact Iff.rfl

/-- A digit and the point are one byte, and the first byte of no other character. -/
theorem exists_utf8EncodeChar (c : Char) : ∃ b rest, String.utf8EncodeChar c = b :: rest ∧
    (isDigitByte b = true ↔ c.isDigit = true) ∧ (b = 46 ↔ c = '.') ∧
    (c.isDigit = true ∨ c = '.' → rest = []) := by
  have hpoint : c = '.' ↔ c.toNat = 46 := Char.toNat_inj.symm
  have hbyte (b : UInt8) : b = 46 ↔ b.toNat = 46 := UInt8.toNat_inj.symm
  simp only [isDigitByte_iff, isDigit_iff, hpoint, hbyte]
  rcases Nat.lt_or_ge c.toNat 128 with hlt | hge
  · refine ⟨_, _, utf8EncodeChar_of_lt hlt, ?_⟩
    rw [UInt8.toNat_ofNat', Nat.mod_eq_of_lt (hlt.trans (by decide))]
    exact ⟨Iff.rfl, Iff.rfl, fun _ => rfl⟩
  · obtain ⟨b, rest, hencode, hb⟩ := exists_utf8EncodeChar_of_le hge
    exact ⟨b, rest, hencode, by omega, by omega, by omega⟩

/-- The first place from one on where there is no digit. -/
def skipDigits (bytes : List UInt8) (i : Nat) : Nat :=
  if h : i < bytes.length then
    if isDigitByte bytes[i] then skipDigits bytes (i + 1) else i
  else i
termination_by bytes.length - i

/-- Skipping digits from the end of a character on stops at the end of one. -/
theorem skipDigits_bytes (before after : List Char) :
    skipDigits (bytes (before ++ after)) (bytes before).length =
      (bytes (before ++ after.takeWhile Char.isDigit)).length := by
  induction after generalizing before with
  | nil =>
    unfold skipDigits
    simp
  | cons c after ih =>
    obtain ⟨b, rest, hencode, hdigit, -, hsingle⟩ := exists_utf8EncodeChar c
    unfold skipDigits
    have hlt : (bytes before).length < (bytes (before ++ c :: after)).length := by
      simp [hencode]
    have hget : (bytes (before ++ c :: after))[(bytes before).length] = b := by
      simp [hencode]
    rw [dif_pos hlt, hget]
    by_cases hc : c.isDigit = true
    · -- the digit is one byte, so the next place is the end of it
      have hnext : (bytes before).length + 1 = (bytes (before ++ [c])).length := by
        rw [hsingle (.inl hc)] at hencode
        simp [bytes, hencode]
      rw [if_pos (hdigit.2 hc), hnext, List.takeWhile_cons_of_pos hc,
        List.append_cons before c after, ih, List.append_assoc, List.singleton_append]
    · rw [if_neg (mt hdigit.1 hc), List.takeWhile_cons_of_neg hc, List.append_nil]

/-- Behind a part of a text there is the byte of the point exactly if the point is there. -/
theorem getElem?_bytes_eq_point (before after : List Char) :
    (bytes (before ++ after))[(bytes before).length]? = some 46 ↔ after.head? = some '.' := by
  rw [bytes_append, List.getElem?_append_right (Nat.le_refl _), Nat.sub_self]
  cases after with
  | nil => simp [bytes]
  | cons c after =>
    obtain ⟨b, rest, hencode, -, hpoint, -⟩ := exists_utf8EncodeChar c
    simp [hencode, hpoint]

/-! ## Cutting a text -/

/-- The text cut at a place counted in bytes; nothing if the place is inside a character, or behind
the text. -/
def cutAt? : List Char → Nat → Option (List Char × List Char)
  | s, 0 => some ([], s)
  | [], _ + 1 => none
  | c :: rest, n + 1 =>
    if c.utf8Size ≤ n + 1 then
      (cutAt? rest (n + 1 - c.utf8Size)).map fun (before, after) => (c :: before, after)
    else none

theorem cutAt?_cons (c : Char) (s : List Char) (n : Nat) :
    cutAt? (c :: s) (c.utf8Size + n) =
      (cutAt? s n).map fun (before, after) => (c :: before, after) := by
  obtain ⟨k, hk⟩ : ∃ k, c.utf8Size + n = k + 1 := ⟨c.utf8Size + n - 1, by
    have hpos := c.utf8Size_pos
    omega⟩
  have hle : c.utf8Size ≤ k + 1 := hk ▸ Nat.le_add_right _ _
  have hrest : k + 1 - c.utf8Size = n := by omega
  rw [hk, cutAt?, if_pos hle, hrest]

/-- A text can be cut behind any part of it. -/
theorem cutAt?_append (before after : List Char) :
    cutAt? (before ++ after) (bytes before).length = some (before, after) := by
  induction before with
  | nil => cases after <;> rfl
  | cons c before ih =>
    rw [bytes_cons, List.length_append, String.length_utf8EncodeChar, List.cons_append, cutAt?_cons,
      ih]
    rfl

/-- It can be cut nowhere else. -/
theorem cutAt?_eq_some_iff {s before after : List Char} {n : Nat} :
    cutAt? s n = some (before, after) ↔ s = before ++ after ∧ n = (bytes before).length := by
  constructor
  · intro h
    fun_induction cutAt? s n generalizing before with
    | case1 s =>
      obtain ⟨rfl, rfl⟩ : _ ∧ _ := by simpa using h
      exact ⟨rfl, rfl⟩
    | case2 => cases h
    | case3 c rest n hle ih =>
      obtain ⟨⟨before', after'⟩, hcut, hpair⟩ := Option.map_eq_some_iff.1 h
      obtain ⟨rfl, rfl⟩ : _ ∧ _ := by simpa using hpair
      obtain ⟨rfl, hn⟩ := ih hcut
      refine ⟨rfl, ?_⟩
      rw [bytes_cons, List.length_append, String.length_utf8EncodeChar]
      omega
    | case4 => cases h
  · rintro ⟨rfl, rfl⟩
    exact cutAt?_append before after

end Text

/-! ## Reading doubles -/

instance (name : String) (s : List Char) : Decidable (Spells name s) :=
  inferInstanceAs (Decidable (_ = _))

namespace Binary64

/-- The exponent behind a numeral, zero if there is none. -/
def readExponent? : List Char → Option Int
  | [] => some 0
  | c :: s => if c = 'e' ∨ c = 'E' then Text.int? s else none

/-- Read what may stand behind a sign: a numeral, perhaps with an exponent, or one of the names in
letters of any case. -/
def readUnsigned? (negative : Bool) (s : List Char) : Option Binary64 :=
  if Spells "inf" s ∨ Spells "infinity" s then some (.infinite negative)
  else if Spells "nan" s then some .nan
  else
    let (whole, fraction, rest) := Length.scanNumeral s
    if whole.isEmpty && fraction.isEmpty then none
    else
      (readExponent? rest).map fun exponent =>
        Decimal.scientific negative (Text.digitsValue (whole ++ fraction))
          (exponent - fraction.length)

/-- Read a double. -/
def read? : List Char → Option Binary64
  | '-' :: s => readUnsigned? true s
  | '+' :: s => readUnsigned? false s
  | s => readUnsigned? false s

end Binary64

namespace Length

/-- A numeral is digits and points. -/
theorem WritesDecimal.forall_mem {number : List Char} {d : Decimal} (h : WritesDecimal number d) :
    number ≠ [] ∧ ∀ c ∈ number, c.isDigit = true ∨ c = '.' := by
  cases h with
  | whole hs => exact ⟨hs.1, fun c hc => .inl (hs.2.1 c hc)⟩
  | @point whole fraction n hne hs =>
    obtain ⟨hwhole, hfraction⟩ := List.forall_mem_append.1 hs.2.1
    refine ⟨by simp, fun c hc => ?_⟩
    rcases List.mem_append.1 hc with hc | hc
    · exact .inl (hwhole c hc)
    · exact (List.mem_cons.1 hc).symm.imp_left (hfraction c)
  | fraction hs =>
    exact ⟨by simp, fun c hc => (List.mem_cons.1 hc).symm.imp_left (hs.2.1 c)⟩

/-- **A numeral is a double**, and without sign and exponent it is the nearest one. -/
theorem WritesDecimal.read? {number : List Char} {d : Decimal} (h : WritesDecimal number d) :
    Binary64.read? number = some (d.toBinary64 false) := by
  obtain ⟨hne, hchars⟩ := h.forall_mem
  obtain ⟨whole, fraction, hsome, rfl, hscan⟩ := h.exists_scan
  have hscan := hscan [] (by simp)
  rw [List.append_nil] at hscan
  obtain ⟨c, s, rfl⟩ := List.exists_cons_of_ne_nil hne
  -- neither a sign nor a letter is at the start
  have hstart : ¬IsLetter c ∧ c ≠ '-' ∧ c ≠ '+' := by
    rcases hchars c List.mem_cons_self with hdigit | rfl
    · refine ⟨fun hletter => ?_, ?_, ?_⟩
      · rw [hletter.isDigit] at hdigit
        cases hdigit
      · rintro rfl
        exact absurd hdigit (by decide)
      · rintro rfl
        exact absurd hdigit (by decide)
    · decide
  obtain ⟨hletter, hminus, hplus⟩ := hstart
  have hname (name : String) (hall : name.toList.all fun c => IsLetter c) :
      ¬Spells name (c :: s) := fun hspells =>
    hletter (hspells.isLetter (List.all_iff_forall_prop.1 hall) c List.mem_cons_self)
  have hinf := hname "inf" (by decide)
  have hinfinity := hname "infinity" (by decide)
  have hnan := hname "nan" (by decide)
  have hempty : ¬(whole.isEmpty && fraction.isEmpty) = true := by
    rcases hsome with h | h <;> simp [h]
  unfold Binary64.read?
  split
  · next heq => exact absurd (List.cons.inj heq).1 hminus
  · next heq => exact absurd (List.cons.inj heq).1 hplus
  · rw [Binary64.readUnsigned?, if_neg (not_or.2 ⟨hinf, hinfinity⟩), if_neg hnan]
    simp only [hscan]
    rw [if_neg hempty, Binary64.readExponent?, Option.map_some, zero_sub]
    exact congrArg some (Decimal.scientific_neg ⟨_, fraction.length⟩ false)

/-! ## Reading lengths -/

/-- The place in the bytes where the numeral at their start ends. -/
def numeralEnd (bytes : List UInt8) : Nat :=
  let stop := Text.skipDigits bytes 0
  if bytes[stop]? = some 46 then Text.skipDigits bytes (stop + 1) else stop

/-- How reading byte by byte ends: the text is cut inside a character, the numeral is not that of a
double, or there is a result. -/
inductive ByteReading where
  | insideCharacter
  | notDouble
  | result (r : Except LayoutError Length)

/-- Read a length byte by byte. -/
def readBytes (s : List Char) : ByteReading :=
  let fault (f : SyntaxFault) : ByteReading := .result (.error (.unreadable (String.ofList s) f))
  let text := Text.trim s
  if text.isEmpty then fault .emptyNumber
  else
    match Text.cutAt? text (numeralEnd (Text.bytes text)) with
    | none => .insideCharacter
    | some (number, rest) =>
      let token := Text.trimStart rest
      if token.any Text.isBlank then fault .textAfterUnit
      else if number = [] ∨ number = ['.'] then fault .noValue
      else
        match Binary64.read? number with
        | none => .notDouble
        | some value =>
          if token.isEmpty then .result (.ok ⟨value, .pixel⟩)
          else
            match LengthUnit.read? token with
            | some unit => .result (.ok ⟨value, unit⟩)
            | none => fault (.unknownUnitToken (String.ofList token))

/-- The bytes of a numeral end where its characters do; it may have none, or a point alone. -/
theorem numeralEnd_bytes {s whole fraction rest : List Char}
    (h : scanNumeral s = (whole, fraction, rest)) :
    ∃ number, s = number ++ rest ∧ numeralEnd (Text.bytes s) = (Text.bytes number).length ∧
      (number = [] ∨ number = ['.'] ↔ whole = [] ∧ fraction = []) := by
  have hsplit := List.takeWhile_append_dropWhile (p := Char.isDigit) (l := s)
  have hstop : Text.skipDigits (Text.bytes s) 0 =
      (Text.bytes (s.takeWhile Char.isDigit)).length := Text.skipDigits_bytes [] s
  have hpoint := Text.getElem?_bytes_eq_point (s.takeWhile Char.isDigit) (s.dropWhile Char.isDigit)
  rw [hsplit] at hpoint
  unfold numeralEnd
  simp only [hstop]
  unfold scanNumeral at h
  split at h
  · next after hafter =>
    obtain ⟨rfl, rfl, rfl⟩ : _ ∧ _ ∧ _ := by simpa using h
    have hs : s = s.takeWhile Char.isDigit ++ ['.'] ++ after := by
      rw [List.append_assoc, List.singleton_append, ← hafter, hsplit]
    have hnext : (Text.bytes (s.takeWhile Char.isDigit)).length + 1 =
        (Text.bytes (s.takeWhile Char.isDigit ++ ['.'])).length := by
      rw [Text.bytes_append, List.length_append]
      rfl
    have hend := Text.skipDigits_bytes (s.takeWhile Char.isDigit ++ ['.']) after
    rw [← hs] at hend
    refine ⟨s.takeWhile Char.isDigit ++ '.' :: after.takeWhile Char.isDigit, ?_, ?_, ?_⟩
    · rw [List.append_assoc, List.cons_append, List.takeWhile_append_dropWhile, ← hafter, hsplit]
    · rw [if_pos (hpoint.2 (by rw [hafter]; rfl)), hnext, hend, List.append_assoc,
        List.singleton_append]
    · cases s.takeWhile Char.isDigit <;> simp
  · next after hafter =>
    obtain ⟨rfl, rfl, rfl⟩ : _ ∧ _ ∧ _ := by simpa using h
    have hhead : (s.dropWhile Char.isDigit).head? ≠ some '.' := by
      intro hhead
      obtain ⟨tail, htail⟩ := List.head?_eq_some_iff.1 hhead
      exact hafter tail htail
    have hdigits : s.takeWhile Char.isDigit ≠ ['.'] := by
      intro heq
      have hmem : '.' ∈ s.takeWhile Char.isDigit := heq ▸ List.mem_singleton_self _
      exact absurd (List.mem_takeWhile_imp hmem) (by decide)
    refine ⟨s.takeWhile Char.isDigit, hsplit.symm, if_neg (mt hpoint.1 hhead), ?_⟩
    rw [or_iff_left hdigits, and_iff_left rfl]

/-- **Reading byte by byte is reading**: the text is never cut inside a character, and what is cut
off is the numeral of a double. -/
theorem readBytes_eq (s : List Char) : readBytes s = .result (read s) := by
  unfold readBytes read
  simp only
  by_cases htext : (Text.trim s).isEmpty = true
  · rw [if_pos htext, if_pos htext]
  rw [if_neg htext, if_neg htext]
  rcases hscan : scanNumeral (Text.trim s) with ⟨whole, fraction, rest⟩
  obtain ⟨number, hs, hend, hnumber⟩ := numeralEnd_bytes hscan
  rw [Text.cutAt?_eq_some_iff.2 ⟨hs, hend⟩]
  simp only
  by_cases htoken : (Text.trimStart rest).any Text.isBlank = true
  · rw [if_pos htoken, if_pos htoken]
  rw [if_neg htoken, if_neg htoken]
  by_cases hnone : whole = [] ∧ fraction = []
  · rw [if_pos (hnumber.2 hnone), if_pos (by simp [hnone])]
  · have hsome : whole ≠ [] ∨ fraction ≠ [] := by rwa [← not_and_or]
    obtain ⟨number', hs', hdecimal⟩ := exists_writesDecimal hscan hsome
    obtain rfl : number' = number := List.append_cancel_right (hs'.symm.trans hs)
    rw [if_neg (mt hnumber.1 hnone), if_neg (by simpa using hnone), hdecimal.read?]
    simp only
    split
    · rfl
    · cases LengthUnit.read? (Text.trimStart rest) <;> rfl

/-! ## What is read -/

/-- **The grammar of lengths is exact.** A text is read exactly if it denotes a length, and as the
one that it denotes, with the value correctly rounded. The value is a number and not below zero.
Read byte by byte, no text is cut inside a character and no numeral fails to be a double. -/
theorem ofText_exact (s : String) :
    ((∃ l, ofText s = .ok l) ↔ ∃ d unit, Denotes s.toList d unit) ∧
      (∀ l, ofText s = .ok l ↔ ∃ d, Denotes s.toList d l.unit ∧ l.value.IsRounded d.value) ∧
      (∀ l, ofText s = .ok l → l.value ≠ .nan ∧ l.value.isNegative = false) ∧
      readBytes s.toList = .result (ofText s) := by
  have hread (l : Length) :
      ofText s = .ok l ↔ ∃ d, Denotes s.toList d l.unit ∧ l.value.IsRounded d.value := by
    simp only [Decimal.isRounded_iff]
    exact read_eq_ok_iff_denotes
  refine ⟨⟨?_, ?_⟩, hread, ?_, readBytes_eq s.toList⟩
  · rintro ⟨l, hl⟩
    obtain ⟨d, hdenotes, -⟩ := (hread l).1 hl
    exact ⟨d, l.unit, hdenotes⟩
  · rintro ⟨d, unit, hdenotes⟩
    exact ⟨⟨d.toBinary64 false, unit⟩, (hread _).2 ⟨d, hdenotes, d.isRounded_toBinary64⟩⟩
  · intro l hl
    obtain ⟨d, -, hrounded⟩ := (hread l).1 hl
    exact hrounded.nonneg

/-- Half a centimetre, without a digit in front of the point. -/
theorem ofText_half_centimetre : ofText " .5 Cm" = .ok ⟨.half, .centimetre⟩ := by
  refine ((ofText_exact " .5 Cm").2.1 _).2 ⟨⟨5, 1⟩, ⟨['.', '5'], [' '], ['C', 'm'], by decide,
    .fraction ⟨by decide, List.forall_mem_singleton.2 rfl, rfl⟩,
    List.forall_mem_singleton.2 rfl, .name rfl⟩, ?_⟩
  rw [Decimal.isRounded_iff]
  decide +kernel

end Length

end GridLayout

import GridLayout.Proofs.Length.Canonical

/-!
# What a length is read from

A text is read as a length exactly if it is a numeral, then perhaps blanks and the name of a unit in
letters of any case, with blanks around it all. Only what trimming leaves of the text matters.

* `Spells`: a text is a name in letters of any case.
* `Length.WritesDecimal`, `Length.NamesUnit` and `Length.Denotes` are the grammar, and
  `Length.read_eq_ok_iff_denotes` says that the reader accepts it and nothing else.
* `Length.isNumeralUnit_of_read`: the parts of a text that is read.
* `Length.read_eq_ok_of_trim_eq`: texts that differ in the blanks around them are read alike.
-/

namespace GridLayout

/-! ## Names in any case -/

/-- The text is the name in letters of any case. -/
def Spells (name : String) (s : List Char) : Prop :=
  Text.lowercase s = Text.lowercase name.toList

/-- The character is between the first capital and the last small letter, and so neither blank nor a
digit, a point or a bracket. -/
def IsLetter (c : Char) : Prop := 65 ≤ c.toNat ∧ c.toNat ≤ 122

instance (c : Char) : Decidable (IsLetter c) := inferInstanceAs (Decidable (_ ∧ _))

namespace IsLetter

variable {c : Char}

theorem isBlank (h : IsLetter c) : Text.isBlank c = false := by
  obtain ⟨hlow, hhigh⟩ := h
  simp [Text.isBlank]
  omega

theorem isDigit (h : IsLetter c) : c.isDigit = false := by
  rw [Bool.eq_false_iff, ne_eq, Text.isDigit_iff]
  exact fun hdigit => absurd h.1 (by omega)

theorem ne (h : IsLetter c) {d : Char} (hd : d.toNat < 65) : c ≠ d := by
  rintro rfl
  exact absurd h.1 (by omega)

end IsLetter

namespace Spells

variable {name : String} {s : List Char}

theorem ne_nil (h : Spells name s) (hname : name.toList ≠ []) : s ≠ [] := by
  rintro rfl
  have hlength := congrArg List.length h
  simp only [Text.lowercase, List.length_map, List.length_nil] at hlength
  exact hname (List.length_eq_zero_iff.1 hlength.symm)

/-- What spells a name of letters is made of letters. -/
theorem isLetter (h : Spells name s) (hname : ∀ c ∈ name.toList, IsLetter c) :
    ∀ c ∈ s, IsLetter c := by
  intro c hc
  have hmem : c.toLower ∈ Text.lowercase name.toList := h ▸ List.mem_map_of_mem hc
  obtain ⟨d, hd, heq⟩ := List.mem_map.1 hmem
  obtain ⟨hlow, hhigh⟩ := hname d hd
  have hcase := congrArg Char.toNat heq
  rw [Text.toNat_toLower, Text.toNat_toLower] at hcase
  constructor <;> split at hcase <;> split at hcase <;> omega

end Spells

theorem LengthUnit.isLetter_name (unit : LengthUnit) : ∀ c ∈ unit.name.toList, IsLetter c := by
  refine List.all_iff_forall_prop.1 ?_
  cases unit <;> decide

theorem LengthUnit.ofName?_eq_some_iff {name : String} {unit : LengthUnit} :
    ofName? name = some unit ↔ name = unit.name := by
  constructor
  · intro h
    have hfound := List.find?_some (p := fun u : LengthUnit => u.name == name) h
    exact (beq_iff_eq.1 hfound).symm
  · rintro rfl
    cases unit <;> decide

theorem LengthUnit.read?_eq_some_iff {s : List Char} {unit : LengthUnit} :
    read? s = some unit ↔ Spells unit.name (Text.trim s) := by
  have hlower : Text.lowercase unit.name.toList = unit.name.toList := by
    cases unit <;> decide
  rw [read?, ofName?_eq_some_iff, Spells, hlower, ← String.toList_inj, String.toList_ofList]

namespace Length

/-! ## The grammar -/

/-- A numeral in one of its three forms: digits, digits and a point with perhaps more digits behind
it, or a point and digits. -/
inductive WritesDecimal : List Char → Decimal → Prop
  | whole {s : List Char} {n : Nat} : Text.WritesNat s n → WritesDecimal s ⟨n, 0⟩
  | point {whole fraction : List Char} {n : Nat} : whole ≠ [] →
    Text.WritesNat (whole ++ fraction) n →
    WritesDecimal (whole ++ '.' :: fraction) ⟨n, fraction.length⟩
  | fraction {s : List Char} {n : Nat} : Text.WritesNat s n → WritesDecimal ('.' :: s) ⟨n, s.length⟩

/-- The name of the unit in letters of any case, or nothing for pixels. -/
inductive NamesUnit : List Char → LengthUnit → Prop
  | absent : NamesUnit [] .pixel
  | name {s : List Char} {unit : LengthUnit} : Spells unit.name s → NamesUnit s unit

/-- Without the blanks around it the text is a numeral, then perhaps blanks, then perhaps a unit. -/
def Denotes (s : List Char) (d : Decimal) (unit : LengthUnit) : Prop :=
  ∃ number gap token, Text.trim s = number ++ gap ++ token ∧ WritesDecimal number d ∧
    Text.IsBlankText gap ∧ NamesUnit token unit

/-- A numeral is scanned as its digits, whatever stands behind it that is no part of one. -/
theorem WritesDecimal.exists_scan {number : List Char} {d : Decimal} (h : WritesDecimal number d) :
    ∃ whole fraction, (whole ≠ [] ∨ fraction ≠ []) ∧
      d = ⟨Text.digitsValue (whole ++ fraction), fraction.length⟩ ∧
      ∀ rest : List Char, (∀ c ∈ rest.head?, c.isDigit = false ∧ c ≠ '.') →
        scanNumeral (number ++ rest) = (whole, fraction, rest) := by
  cases h with
  | whole hs =>
    obtain ⟨hne, hdigits, rfl⟩ := hs
    refine ⟨number, [], .inl hne, by simp [Text.digitsValue_eq], fun rest hrest => ?_⟩
    exact scanNumeral_whole hdigits hrest
  | @point whole fraction n hne hs =>
    obtain ⟨-, hdigits, rfl⟩ := hs
    refine ⟨whole, fraction, .inl hne, rfl, fun rest hrest => ?_⟩
    rw [List.append_assoc, List.cons_append]
    exact scanNumeral_point (fun c hc => hdigits c (by simp [hc]))
      (fun c hc => hdigits c (by simp [hc])) fun c hc => (hrest c hc).1
  | @fraction fraction n hs =>
    obtain ⟨hne, hdigits, rfl⟩ := hs
    have hnone : ∀ c ∈ ([] : List Char), c.isDigit = true := by simp
    refine ⟨[], fraction, .inr hne, rfl, fun rest hrest => ?_⟩
    exact scanNumeral_point hnone hdigits fun c hc => (hrest c hc).1

/-- The parts that are scanned make up the text. -/
theorem scanNumeral_spec {s whole fraction rest : List Char}
    (h : scanNumeral s = (whole, fraction, rest)) :
    (∀ c ∈ whole, c.isDigit = true) ∧ ∃ point, s = whole ++ point ++ rest ∧
      (point = [] ∧ fraction = [] ∨
        point = '.' :: fraction ∧ ∀ c ∈ fraction, c.isDigit = true) := by
  have hsplit := List.takeWhile_append_dropWhile (p := Char.isDigit) (l := s)
  unfold scanNumeral at h
  split at h
  · next after hafter =>
    obtain ⟨rfl, rfl, rfl⟩ : _ ∧ _ ∧ _ := by simpa using h
    refine ⟨fun _ hc => List.mem_takeWhile_imp hc, '.' :: after.takeWhile Char.isDigit, ?_,
      .inr ⟨rfl, fun _ hc => List.mem_takeWhile_imp hc⟩⟩
    rw [List.append_assoc, List.cons_append, List.takeWhile_append_dropWhile, ← hafter, hsplit]
  · next after hafter =>
    obtain ⟨rfl, rfl, rfl⟩ : _ ∧ _ ∧ _ := by simpa using h
    refine ⟨fun _ hc => List.mem_takeWhile_imp hc, [], ?_, .inl ⟨rfl, rfl⟩⟩
    rw [List.append_nil, hsplit]

/-- Scanned digits are those of a numeral at the start of the text. -/
theorem exists_writesDecimal {s whole fraction rest : List Char}
    (h : scanNumeral s = (whole, fraction, rest)) (hsome : whole ≠ [] ∨ fraction ≠ []) :
    ∃ number, s = number ++ rest ∧
      WritesDecimal number ⟨Text.digitsValue (whole ++ fraction), fraction.length⟩ := by
  obtain ⟨hwhole, point, rfl, ⟨rfl, rfl⟩ | ⟨rfl, hfraction⟩⟩ := scanNumeral_spec h
  · have hne : whole ≠ [] := by simpa using hsome
    refine ⟨whole, by rw [List.append_nil], ?_⟩
    rw [List.append_nil]
    exact .whole ⟨hne, hwhole, rfl⟩
  · have hdigits : ∀ c ∈ whole ++ fraction, c.isDigit = true :=
      List.forall_mem_append.2 ⟨hwhole, hfraction⟩
    refine ⟨_, rfl, ?_⟩
    by_cases hne : whole = []
    · subst hne
      exact .fraction ⟨hsome.resolve_left (by simp), hfraction, rfl⟩
    · exact .point hne ⟨by simp [hne], hdigits, rfl⟩

theorem NamesUnit.eq_nil_or_spells {token : List Char} {unit : LengthUnit}
    (h : NamesUnit token unit) : token = [] ∨ Spells unit.name token := by
  cases h with
  | absent => exact .inl rfl
  | name hspells => exact .inr hspells

/-- A token names a unit if there is no blank in it and it is read as the unit. -/
theorem namesUnit_iff {token : List Char} {unit : LengthUnit} :
    NamesUnit token unit ↔ (∀ c ∈ token, Text.isBlank c = false) ∧
      (token = [] ∧ unit = .pixel ∨ LengthUnit.read? token = some unit) := by
  constructor
  · rintro (_ | hspells)
    · simp
    · have hblank : ∀ c ∈ token, Text.isBlank c = false := fun c hc =>
        (hspells.isLetter unit.isLetter_name c hc).isBlank
      refine ⟨hblank, .inr (LengthUnit.read?_eq_some_iff.2 ?_)⟩
      rwa [Text.trim_of_forall hblank]
  · rintro ⟨hblank, ⟨rfl, rfl⟩ | hread⟩
    · exact .absent
    · rw [LengthUnit.read?_eq_some_iff, Text.trim_of_forall hblank] at hread
      exact .name hread

/-- What follows a numeral does not continue it. -/
theorem NamesUnit.head?_append {gap token : List Char} {unit : LengthUnit}
    (hgap : Text.IsBlankText gap) (h : NamesUnit token unit) :
    ∀ c ∈ (gap ++ token).head?, c.isDigit = false ∧ c ≠ '.' := by
  have hblank {c : Char} (hc : Text.isBlank c = true) : c.isDigit = false ∧ c ≠ '.' := by
    constructor
    · rw [Bool.eq_false_iff]
      exact fun hdigit => by rw [Text.isBlank_of_isDigit hdigit] at hc; cases hc
    · rintro rfl
      exact absurd hc (by decide)
  intro c hc
  rcases List.mem_append.1 (List.mem_of_mem_head? hc) with hc | hc
  · exact hblank (hgap c hc)
  · cases h with
    | absent => cases hc
    | @name _ unit hspells =>
      have hletter := hspells.isLetter unit.isLetter_name c hc
      exact ⟨hletter.isDigit, hletter.ne (by decide)⟩

/-- **The grammar is exact**: a text is read as a length exactly if it denotes one. -/
theorem read_eq_ok_iff_denotes {s : List Char} {l : Length} :
    read s = .ok l ↔ ∃ d, Denotes s d l.unit ∧ l.value = d.toBinary64 false := by
  constructor
  · intro h
    rcases hscan : scanNumeral (Text.trim s) with ⟨whole, fraction, rest⟩
    obtain ⟨hsome, hblank, hvalue, hunit⟩ := (read_eq_ok_iff hscan).1 h
    obtain ⟨number, heq, hnumber⟩ := exists_writesDecimal hscan hsome
    have hrest := List.takeWhile_append_dropWhile (p := Text.isBlank) (l := rest)
    refine ⟨_, ⟨number, rest.takeWhile Text.isBlank, Text.trimStart rest, ?_, hnumber,
      Text.isBlankText_takeWhile rest, namesUnit_iff.2 ⟨hblank, hunit⟩⟩, hvalue⟩
    rw [List.append_assoc, Text.trimStart, hrest, heq]
  · rintro ⟨d, ⟨number, gap, token, heq, hnumber, hgap, hunit⟩, hvalue⟩
    obtain ⟨whole, fraction, hsome, rfl, hscan⟩ := hnumber.exists_scan
    have hscan := hscan (gap ++ token) (hunit.head?_append hgap)
    rw [← List.append_assoc, ← heq] at hscan
    obtain ⟨hblank, hread⟩ := namesUnit_iff.1 hunit
    have htoken : Text.trimStart (gap ++ token) = token := by
      rw [Text.trimStart_append_of_blank hgap]
      exact Text.trimStart_eq_self fun c hc => hblank c (List.mem_of_mem_head? hc)
    refine (read_eq_ok_iff hscan).2 ⟨hsome, ?_, hvalue, ?_⟩
    · rwa [htoken]
    · rwa [htoken]

/-! ## The parts of a length -/

/-- The text is digits, perhaps with a point and digits behind them or alone, then perhaps blanks
and the name of a unit. -/
structure IsNumeralUnit (s whole point gap token : List Char) : Prop where
  eq : s = whole ++ point ++ gap ++ token
  whole_digits : ∀ c ∈ whole, c.isDigit = true
  point_digits : point = [] ∨ ∃ fraction, point = '.' :: fraction ∧ ∀ c ∈ fraction, c.isDigit = true
  some_digit : ∃ c ∈ whole ++ point, c.isDigit = true
  gap_blank : Text.IsBlankText gap
  token_spells : token = [] ∨ ∃ unit : LengthUnit, Spells unit.name token

/-- What trimming leaves of a text that is read is a numeral with a unit. -/
theorem isNumeralUnit_of_read {s : List Char} {l : Length} (h : read s = .ok l) :
    ∃ whole point gap token, IsNumeralUnit (Text.trim s) whole point gap token := by
  obtain ⟨d, ⟨number, gap, token, heq, hnumber, hgap, hunit⟩, -⟩ := read_eq_ok_iff_denotes.1 h
  have htoken : token = [] ∨ ∃ unit : LengthUnit, Spells unit.name token :=
    hunit.eq_nil_or_spells.imp_right fun hspells => ⟨l.unit, hspells⟩
  have hdigit {digits : List Char} {n : Nat} (hs : Text.WritesNat digits n) :
      ∃ c ∈ digits, c.isDigit = true := by
    obtain ⟨hne, hdigits, -⟩ := hs
    exact ⟨digits.head hne, List.head_mem hne, hdigits _ (List.head_mem hne)⟩
  cases hnumber with
  | whole hs =>
    exact ⟨number, [], gap, token, by rw [heq, List.append_nil], hs.2.1, .inl rfl,
      by simpa using hdigit hs, hgap, htoken⟩
  | @point whole fraction n _ hs =>
    obtain ⟨hwhole, hfraction⟩ := List.forall_mem_append.1 hs.2.1
    obtain ⟨c, hc, hcdigit⟩ := hdigit hs
    refine ⟨whole, '.' :: fraction, gap, token, heq, hwhole, .inr ⟨fraction, rfl, hfraction⟩,
      ⟨c, ?_, hcdigit⟩, hgap, htoken⟩
    simpa using (List.mem_append.1 hc).imp_right .inr
  | @fraction fraction n hs =>
    obtain ⟨c, hc, hcdigit⟩ := hdigit hs
    exact ⟨[], '.' :: fraction, gap, token, heq, by simp, .inr ⟨fraction, rfl, hs.2.1⟩,
      ⟨c, by simp [hc], hcdigit⟩, hgap, htoken⟩

namespace IsNumeralUnit

variable {s whole point gap token : List Char}

/-- There is no bracket in it. -/
theorem notMem (h : IsNumeralUnit s whole point gap token) : '(' ∉ s := by
  rw [h.eq]
  simp only [List.mem_append, not_or]
  refine ⟨⟨⟨fun hmem => ?_, fun hmem => ?_⟩, fun hmem => ?_⟩, fun hmem => ?_⟩
  · exact absurd (h.whole_digits _ hmem) (by decide)
  · rcases h.point_digits with rfl | ⟨fraction, rfl, hfraction⟩
    · cases hmem
    · rcases List.mem_cons.1 hmem with hpoint | hmem
      · exact absurd hpoint (by decide)
      · exact absurd (hfraction _ hmem) (by decide)
  · exact absurd (h.gap_blank _ hmem) (by decide)
  · rcases h.token_spells with rfl | ⟨unit, hunit⟩
    · cases hmem
    · exact absurd (hunit.isLetter unit.isLetter_name _ hmem) (by decide)

/-- There is a digit in it, so it is no name. -/
theorem exists_not_isLetter (h : IsNumeralUnit s whole point gap token) : ∃ c ∈ s, ¬IsLetter c := by
  obtain ⟨c, hc, hdigit⟩ := h.some_digit
  refine ⟨c, ?_, fun hletter => ?_⟩
  · rw [h.eq]
    exact List.mem_append_left _ (List.mem_append_left _ hc)
  · rw [hletter.isDigit] at hdigit
    cases hdigit

end IsNumeralUnit

/-! ## Blanks around a length -/

/-- Texts that differ only in the blanks around them are read alike, if they are read. -/
theorem read_eq_ok_of_trim_eq {s s' : List Char} (htrim : Text.trim s = Text.trim s') {l : Length}
    (h : read s = .ok l) : read s' = .ok l := by
  rcases hscan : scanNumeral (Text.trim s') with ⟨whole, fraction, rest⟩
  exact (read_eq_ok_iff hscan).2 ((read_eq_ok_iff (htrim ▸ hscan)).1 h)

end Length

end GridLayout

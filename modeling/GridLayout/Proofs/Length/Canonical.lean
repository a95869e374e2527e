import Mathlib.Data.Bool.AllAny
import GridLayout.Length.Reader
import GridLayout.Proofs.Binary64.Shortest
import GridLayout.Proofs.Text.Fields

/-!
# The canonical text of a length

The canonical text of a length with a finite value is read as the same length. An infinite value has
no numeral, so a length with such a value is written as a text that cannot be read; and there are
such lengths, because a numeral may be too large for a double.

* `Length.read_toText`: the text of a finite length is read back.
* `Length.read_toText_infinite`: that of an infinite one is not.
* `Length.read_eq_ok_iff`: what a text is read as. So the value is that of `Length.numeral`
  (`Length.value_of_read`), which is finite exactly below `Decimal.overflow`.
-/

namespace GridLayout

/-! ## Scanning a numeral -/

namespace Length

variable {whole fraction rest : List Char}

theorem takeWhile_dropWhile_digits (hwhole : ∀ c ∈ whole, c.isDigit = true)
    (hrest : ∀ c ∈ rest.head?, c.isDigit = false) :
    (whole ++ rest).takeWhile Char.isDigit = whole ∧
      (whole ++ rest).dropWhile Char.isDigit = rest := by
  rw [List.takeWhile_append_of_pos hwhole, List.dropWhile_append_of_pos hwhole]
  cases rest with
  | nil => simp
  | cons c rest =>
    have hc : c.isDigit = false := hrest c rfl
    simp [hc]

/-- Digits before something that is neither a digit nor a point. -/
theorem scanNumeral_whole (hwhole : ∀ c ∈ whole, c.isDigit = true)
    (hrest : ∀ c ∈ rest.head?, c.isDigit = false ∧ c ≠ '.') :
    scanNumeral (whole ++ rest) = (whole, [], rest) := by
  obtain ⟨htake, hdrop⟩ := takeWhile_dropWhile_digits hwhole fun c hc => (hrest c hc).1
  simp only [scanNumeral, htake, hdrop]
  split
  · next hpoint => exact absurd rfl (hrest '.' rfl).2
  · rfl

/-- A point with perhaps digits around it before something that is no digit. -/
theorem scanNumeral_point (hwhole : ∀ c ∈ whole, c.isDigit = true)
    (hfraction : ∀ c ∈ fraction, c.isDigit = true)
    (hrest : ∀ c ∈ rest.head?, c.isDigit = false) :
    scanNumeral (whole ++ '.' :: (fraction ++ rest)) = (whole, fraction, rest) := by
  have hpoint : ∀ c ∈ ('.' :: (fraction ++ rest)).head?, c.isDigit = false := by
    rintro c ⟨⟩
    rfl
  obtain ⟨htake, hdrop⟩ := takeWhile_dropWhile_digits hwhole hpoint
  obtain ⟨htake', hdrop'⟩ := takeWhile_dropWhile_digits hfraction hrest
  simp only [scanNumeral, htake, hdrop, htake', hdrop']

/-- Digits, and a point with digits if there are any, before something that is neither. -/
theorem scanNumeral_append (hwhole : ∀ c ∈ whole, c.isDigit = true)
    (hfraction : ∀ c ∈ fraction, c.isDigit = true)
    (hrest : ∀ c ∈ rest.head?, c.isDigit = false ∧ c ≠ '.') :
    scanNumeral (whole ++ (if fraction = [] then [] else '.' :: fraction) ++ rest) =
      (whole, fraction, rest) := by
  split
  · next hnil =>
    rw [hnil, List.append_nil]
    exact scanNumeral_whole hwhole hrest
  · rw [List.append_assoc, List.cons_append]
    exact scanNumeral_point hwhole hfraction fun c hc => (hrest c hc).1

/-! ## Reading a value -/

/-- What a text is read as, by its scan: there must be a digit, no blank after the unit begins, and
no other unit than one with a name. -/
theorem read_eq_ok_iff {s : List Char} {l : Length}
    (hscan : scanNumeral (Text.trim s) = (whole, fraction, rest)) :
    read s = .ok l ↔ (whole ≠ [] ∨ fraction ≠ []) ∧
      (∀ c ∈ Text.trimStart rest, Text.isBlank c = false) ∧
      l.value =
        (Decimal.mk (Text.digitsValue (whole ++ fraction)) fraction.length).toBinary64 false ∧
      (Text.trimStart rest = [] ∧ l.unit = .pixel ∨
        LengthUnit.read? (Text.trimStart rest) = some l.unit) := by
  obtain ⟨value, unit⟩ := l
  unfold read
  simp only [hscan]
  by_cases htext : Text.trim s = []
  · -- nothing is scanned from an empty text
    rw [htext] at hscan
    obtain ⟨rfl, rfl, rfl⟩ : _ ∧ _ ∧ _ := by simpa [scanNumeral, eq_comm] using hscan
    simp [htext]
  rw [if_neg (by simpa using htext)]
  by_cases htoken : ∀ c ∈ Text.trimStart rest, Text.isBlank c = false
  · rw [if_neg (by simpa using htoken)]
    by_cases hdigit : whole ≠ [] ∨ fraction ≠ []
    · rw [if_neg (by rcases hdigit with h | h <;> simp [h])]
      have hdone (x : Binary64) (u : LengthUnit) :
          (.ok ⟨x, u⟩ : Except LayoutError Length) = .ok ⟨value, unit⟩ ↔ value = x ∧ u = unit := by
        rw [Except.ok.injEq, Length.mk.injEq, eq_comm (a := x)]
      by_cases hempty : Text.trimStart rest = []
      · have hnone : LengthUnit.read? [] = none := by decide
        rw [if_pos (by simpa using hempty), hdone]
        simp [hempty, hnone, hdigit, eq_comm (a := unit)]
      · rw [if_neg (by simpa using hempty)]
        cases LengthUnit.read? (Text.trimStart rest) with
        | none => simp [hempty]
        | some u =>
          rw [hdone, Option.some.injEq]
          exact ⟨fun h => ⟨hdigit, htoken, h.1, .inr h.2⟩, fun ⟨_, _, hvalue, hunit⟩ =>
            ⟨hvalue, hunit.resolve_left fun h => hempty h.1⟩⟩
    · rw [if_pos (by simpa [not_or] using hdigit)]
      exact iff_of_false (by simp) fun h => hdigit h.1
  · rw [if_pos (by simpa using htoken)]
    exact iff_of_false (by simp) fun h => htoken h.2.1

/-- The numeral at the start of a text. -/
def numeral (s : List Char) : Decimal :=
  let (whole, fraction, _) := scanNumeral (Text.trim s)
  ⟨Text.digitsValue (whole ++ fraction), fraction.length⟩

/-- The value that is read is that of the numeral. -/
theorem value_of_read {s : List Char} {l : Length} (h : read s = .ok l) :
    l.value = (numeral s).toBinary64 false := ((read_eq_ok_iff rfl).1 h).2.2.1

/-- Digits, perhaps with a point and digits after it, then the name of a unit. -/
theorem read_append_name (hwhole : ∀ c ∈ whole, c.isDigit = true) (hne : whole ≠ [])
    (hfraction : ∀ c ∈ fraction, c.isDigit = true) (unit : LengthUnit) :
    read (whole ++ (if fraction = [] then [] else '.' :: fraction) ++ unit.name.toList) =
      .ok ⟨(Decimal.mk (Text.digitsValue (whole ++ fraction)) fraction.length).toBinary64 false,
        unit⟩ := by
  obtain ⟨hname, hread⟩ : unit.name.toList ≠ [] ∧
      LengthUnit.read? unit.name.toList = some unit := by
    cases unit <;> decide
  have hletter : ∀ c ∈ unit.name.toList,
      Text.isBlank c = false ∧ c.isDigit = false ∧ c ≠ '.' := by
    refine List.all_iff_forall_prop.1 ?_
    cases unit <;> decide
  have hblank : ∀ c ∈ unit.name.toList, Text.isBlank c = false := fun c hc => (hletter c hc).1
  have hscan := scanNumeral_append hwhole hfraction fun c hc =>
    (hletter c (List.mem_of_mem_head? hc)).2
  generalize (if fraction = [] then [] else '.' :: fraction) = point at *
  have htrim : Text.trim (whole ++ point ++ unit.name.toList) =
      whole ++ point ++ unit.name.toList := by
    apply Text.trim_eq_self
    · intro c hc
      obtain ⟨d, tail, rfl⟩ := List.exists_cons_of_ne_nil hne
      obtain rfl : d = c := by simpa using hc
      exact Text.isBlank_of_isDigit (hwhole d (by simp))
    · intro c hc
      rw [List.getLast?_append, List.getLast?_eq_some_getLast hname] at hc
      obtain rfl : unit.name.toList.getLast hname = c := by simpa using hc
      exact hblank _ (List.getLast_mem hname)
  have hstart : Text.trimStart unit.name.toList = unit.name.toList :=
    Text.trimStart_eq_self fun c hc => hblank c (List.mem_of_mem_head? hc)
  rw [← htrim] at hscan
  refine (read_eq_ok_iff hscan).2 ⟨.inl hne, ?_, rfl, .inr ?_⟩
  · rwa [hstart]
  · rwa [hstart]

/-! ## Reading back -/

/-- The value of a finite length is written as digits, perhaps with a point and digits after it,
that are read as the value. -/
theorem exists_digits {l : Length} (h : l.value.HasNumeral) :
    ∃ whole fraction : List Char, whole ≠ [] ∧ (∀ c ∈ whole, c.isDigit = true) ∧
      (∀ c ∈ fraction, c.isDigit = true) ∧
      l.valueChars = whole ++ (if fraction = [] then [] else '.' :: fraction) ∧
      (Decimal.mk (Text.digitsValue (whole ++ fraction)) fraction.length).toBinary64 false =
        l.value := by
  obtain ⟨m, hm⟩ := h
  have hchars : l.value.toChars = m.shortest.toChars := by
    rw [hm]
    rfl
  have hvalue := m.toBinary64_shortest false
  have hzero := m.toBinary64_shortest_zero false
  rw [← hm] at hvalue hzero
  generalize m.shortest = d at *
  have hnil : d.fractionDigits = [] ↔ d.places = 0 := by
    rw [← List.length_eq_zero_iff, d.length_fractionDigits]
  have hdigits := d.digitsValue_allDigits
  rw [← d.wholeDigits_append] at hdigits
  rw [Decimal.toChars_eq] at hchars
  by_cases hplaces : d.places = 0
  · have hpoint : '.' ∉ d.wholeDigits := by
      intro hmem
      exact absurd (d.isDigit_of_mem_wholeDigits hmem) (by decide)
    rw [if_pos hplaces, List.append_nil] at hchars
    rw [hnil.2 hplaces, List.append_nil] at hdigits
    by_cases hunit : l.unit = .pixel
    · refine ⟨d.wholeDigits, [], d.wholeDigits_ne_nil, fun c => d.isDigit_of_mem_wholeDigits,
        by simp, by simp [valueChars, hchars, hunit], ?_⟩
      rw [List.append_nil, hdigits, List.length_nil, ← hplaces]
      exact hvalue
    · refine ⟨d.wholeDigits, ['0'], d.wholeDigits_ne_nil, fun c => d.isDigit_of_mem_wholeDigits,
        by simp, by simp [valueChars, hchars, hunit, hpoint], ?_⟩
      rw [Text.digitsValue_append_zero, hdigits, List.length_singleton]
      rwa [hplaces] at hzero
  · have hfraction : d.fractionDigits ≠ [] := mt hnil.1 hplaces
    rw [if_neg hplaces] at hchars
    refine ⟨d.wholeDigits, d.fractionDigits, d.wholeDigits_ne_nil,
      fun c => d.isDigit_of_mem_wholeDigits, fun c => d.isDigit_of_mem_fractionDigits,
      by simp [valueChars, hchars, hfraction], ?_⟩
    rw [hdigits, d.length_fractionDigits]
    exact hvalue

/-- The canonical text of a finite length is read as the length. -/
theorem read_toText {l : Length} (h : l.value.HasNumeral) : read l.toText.toList = .ok l := by
  obtain ⟨whole, fraction, hne, hwhole, hfraction, hchars, hvalue⟩ := exists_digits h
  rw [toText, String.toList_ofList, hchars, read_append_name hwhole hne hfraction, hvalue]

/-- The canonical text of an infinite length has no numeral. -/
theorem read_toText_infinite {l : Length} (h : l.value = .infinite false) :
    read l.toText.toList = .error (.unreadable l.toText .noValue) := by
  obtain ⟨value, unit⟩ := l
  dsimp only at h
  subst h
  cases unit <;> rfl

end Length

end GridLayout

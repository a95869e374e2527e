import GridLayout.Text.Basic

/-!
# Reading back the digits of a number

The digits of a natural number are read back as the number, also behind zeros and as a whole
number of a given size. None of them is blank, a sign or a separator.

* `Text.digitsValue_toDigits`, `Text.natOfBits?_toDigits` and `Text.intOfBits?_toDigits` read back.
* `Text.int?_eq_some_iff`: a whole number is read from exactly the texts that write it.
* `Text.isDigit_toDigits` and the facts after it say which characters are not digits.
-/

namespace GridLayout.Text

/-! ## Values -/

theorem digitsValue_eq (digits : List Char) : digitsValue digits = Nat.ofDigitChars 10 digits 0 :=
  rfl

theorem digitsValue_toDigits (n : Nat) : digitsValue (Nat.toDigits 10 n) = n := by
  rw [digitsValue_eq]
  exact Nat.ofDigitChars_toDigits (by decide) (by decide)

theorem digitsValue_replicate_append (n : Nat) (digits : List Char) :
    digitsValue (List.replicate n '0' ++ digits) = digitsValue digits := by
  induction n with
  | zero => rfl
  | succ n ih => exact ih

theorem digitsValue_append_zero (digits : List Char) :
    digitsValue (digits ++ ['0']) = 10 * digitsValue digits := by
  simp [digitsValue]

/-! ## Characters -/

theorem isDigit_toDigits {n : Nat} {c : Char} (hc : c ∈ Nat.toDigits 10 n) : c.isDigit = true :=
  Nat.isDigit_of_mem_toDigits (by decide) (by decide) hc

theorem isDigit_iff {c : Char} : c.isDigit = true ↔ 48 ≤ c.toNat ∧ c.toNat ≤ 57 := by
  simp only [Char.isDigit, Bool.and_eq_true, decide_eq_true_eq, ge_iff_le, UInt32.le_iff_toNat_le]
  rfl

theorem isBlank_of_isDigit {c : Char} (h : c.isDigit = true) : isBlank c = false := by
  have hc := isDigit_iff.1 h
  simp [isBlank]
  omega

/-! ## Whole numbers -/

theorem digits?_toDigits (n : Nat) : digits? (Nat.toDigits 10 n) = some n := by
  have hne : Nat.toDigits 10 n ≠ [] := Nat.toDigits_ne_nil
  have hall : (Nat.toDigits 10 n).all Char.isDigit = true := by
    rw [List.all_eq_true]
    intro c hc
    exact isDigit_toDigits hc
  simp [digits?, hne, hall, digitsValue_toDigits]

theorem ne_sign_of_isDigit {c : Char} (h : c.isDigit = true) : c ≠ '+' ∧ c ≠ '-' := by
  constructor <;> rintro rfl <;> exact absurd h (by decide)

/-- The digits of a number start with no sign. -/
theorem exists_toDigits_eq_cons (n : Nat) :
    ∃ c rest, Nat.toDigits 10 n = c :: rest ∧ c ≠ '+' ∧ c ≠ '-' := by
  obtain ⟨c, rest, hdigits⟩ := List.exists_cons_of_ne_nil (Nat.toDigits_ne_nil (b := 10) (n := n))
  have hc : c.isDigit = true := isDigit_toDigits (n := n) (by simp [hdigits])
  exact ⟨c, rest, hdigits, ne_sign_of_isDigit hc⟩

theorem int?_toDigits (n : Nat) : int? (Nat.toDigits 10 n) = some (n : Int) := by
  obtain ⟨c, rest, hdigits, hplus, hminus⟩ := exists_toDigits_eq_cons n
  rw [hdigits, int?]
  · rw [← hdigits, digits?_toDigits]
    rfl
  · intro rest' h
    exact hminus (List.cons.inj h).1
  · intro rest' h
    exact hplus (List.cons.inj h).1

theorem natOfBits?_toDigits {bits n : Nat} (h : n < Nat.pow 2 bits) :
    natOfBits? bits (Nat.toDigits 10 n) = some n := by
  obtain ⟨c, rest, hdigits, hplus, -⟩ := exists_toDigits_eq_cons n
  rw [hdigits, natOfBits?]
  · rw [← hdigits, digits?_toDigits, Option.filter_some]
    simp only [h, decide_true, if_true]
  · intro rest' heq
    exact hplus (List.cons.inj heq).1

theorem intOfBits?_toDigits {bits n : Nat} (h : n < Nat.pow 2 (bits - 1)) :
    intOfBits? bits (Nat.toDigits 10 n) = some (n : Int) := by
  have hlow : -((Nat.pow 2 (bits - 1) : Nat) : Int) ≤ n := by omega
  have hhigh : (n : Int) < (Nat.pow 2 (bits - 1) : Nat) := by omega
  simp only [intOfBits?, int?_toDigits, Option.filter_some, hlow, hhigh, decide_true, Bool.and_self,
    if_true]

/-- One or more digits, which write the number. -/
def WritesNat (s : List Char) (n : Nat) : Prop :=
  s ≠ [] ∧ (∀ c ∈ s, c.isDigit = true) ∧ Nat.ofDigitChars 10 s 0 = n

/-- Digits, perhaps with a sign in front of them, which write the number. -/
inductive WritesInt : List Char → Int → Prop
  | plain {s : List Char} {n : Nat} : WritesNat s n → WritesInt s n
  | plus {s : List Char} {n : Nat} : WritesNat s n → WritesInt ('+' :: s) n
  | minus {s : List Char} {n : Nat} : WritesNat s n → WritesInt ('-' :: s) (-n)

theorem digits?_eq_some_iff {s : List Char} {n : Nat} : digits? s = some n ↔ WritesNat s n := by
  simp [digits?, WritesNat, digitsValue_eq, and_assoc]

theorem int?_eq_some_iff {s : List Char} {n : Int} : int? s = some n ↔ WritesInt s n := by
  constructor
  · intro h
    unfold int? at h
    split at h
    · next rest =>
      rcases hk : digits? rest with _ | k <;> simp [hk] at h
      exact h ▸ .minus (digits?_eq_some_iff.1 hk)
    · next rest =>
      rcases hk : digits? rest with _ | k <;> simp [hk] at h
      exact h ▸ .plus (digits?_eq_some_iff.1 hk)
    · rcases hk : digits? s with _ | k <;> simp [hk] at h
      exact h ▸ .plain (digits?_eq_some_iff.1 hk)
  · intro h
    cases h with
    | plus hs => simp [int?, digits?_eq_some_iff.2 hs]
    | minus hs => simp [int?, digits?_eq_some_iff.2 hs]
    | plain hs =>
      -- digits start with no sign, so the last case of the reader is theirs
      obtain ⟨-, hdigits, -⟩ := id hs
      unfold int?
      split
      · exact absurd (hdigits '-' (by simp)) (by decide)
      · exact absurd (hdigits '+' (by simp)) (by decide)
      · simp [digits?_eq_some_iff.2 hs]

end GridLayout.Text

import GridLayout.Proofs.Binary64.Rounding
import GridLayout.Proofs.Text.Numeral

/-!
# Decimal numerals read back

The numeral written for a magnitude lies in its rounding interval, so it is read as that magnitude,
whatever its size. Its text is the digits before the point and those after it, and a zero at its end
changes nothing.

* `Magnitude.toBinary64_shortest`: the value of the numeral is the double it was written for.
* `Decimal.scientific_neg`: without an exponent the scale is that of the digits after the point.
* `Decimal.toChars_eq` and `Decimal.digitsValue_digits`: the text of a numeral and its value.
-/

namespace GridLayout

theorem Binary64.ofUnits_of_eq_some {num den : Nat} {m : Magnitude}
    (h : Magnitude.ofUnits num den = some m) (negative : Bool) :
    Binary64.ofUnits negative num den = .finite negative m := by
  unfold Binary64.ofUnits
  rw [h]

theorem Binary64.ofUnits_of_eq_none {num den : Nat} (h : Magnitude.ofUnits num den = none)
    (negative : Bool) : Binary64.ofUnits negative num den = .infinite negative := by
  unfold Binary64.ofUnits
  rw [h]

theorem Binary64.ofUnits_eq_finite_iff {negative : Bool} {num den : Nat} {m : Magnitude} :
    Binary64.ofUnits negative num den = .finite negative m ↔
      Magnitude.ofUnits num den = some m := by
  unfold Binary64.ofUnits
  cases Magnitude.ofUnits num den <;> simp

namespace Magnitude

variable {m : Magnitude}

/-! ## The rounding interval -/

/-- A decimal in the rounding interval is read as the magnitude. -/
theorem toBinary64_of_rounds {d : Decimal} (h : m.Rounds d.digits (Nat.pow 10 d.places))
    (negative : Bool) : d.toBinary64 negative = .finite negative m :=
  Binary64.ofUnits_of_eq_some (ofUnits_of_rounds (Nat.pow_pos (by decide)) h) negative

/-- Only the value of a ratio matters. -/
theorem Rounds.mul {num den : Nat} (h : m.Rounds num den) {c : Nat} (hc : 0 < c) :
    m.Rounds (num * c) (den * c) := by
  have hle (a b : Nat) : a * (den * c) ≤ b * c ↔ a * den ≤ b := by
    rw [← Nat.mul_assoc]
    exact Nat.mul_le_mul_right_iff hc
  have hge (a b : Nat) : a * c ≤ b * (den * c) ↔ a ≤ b * den := by
    rw [← Nat.mul_assoc]
    exact Nat.mul_le_mul_right_iff hc
  have hlt (a b : Nat) : a * (den * c) < b * c ↔ a * den < b := by
    rw [← Nat.mul_assoc]
    exact Nat.mul_lt_mul_right hc
  have hgt (a b : Nat) : a * c < b * (den * c) ↔ a < b * den := by
    rw [← Nat.mul_assoc]
    exact Nat.mul_lt_mul_right hc
  unfold Rounds at h ⊢
  rw [Nat.mul_right_comm]
  simpa only [hle, hge, hlt, hgt] using h

/-- The magnitude itself lies in its rounding interval. -/
theorem rounds_of_eq {num den : Nat} (hden : 0 < den)
    (h : num * Binary64.unitsPerOne = m.units * den) : m.Rounds num den := by
  have hstep : 0 < 2 ^ m.exponent * den := Nat.mul_pos (Nat.two_pow_pos _) hden
  unfold Rounds
  rw [upperQuarters_mul, lowerQuarters_mul, quartersPerOne_mul, h]
  split
  · constructor <;> omega
  · next hodd =>
    -- an odd magnitude is not zero, so the interval does not end in it
    have hunits : 0 < m.units * den := by
      rw [units_mul]
      exact Nat.mul_pos (by omega) hstep
    constructor
    · split <;> omega
    · omega

/-! ## The shortest numeral -/

theorem rounds_of_nearestOnGrid {k : Int} {d : Decimal} (h : m.nearestOnGrid k = some d) :
    m.Rounds d.digits (Nat.pow 10 d.places) := by
  unfold nearestOnGrid at h
  simp only at h
  split at h
  · next hdown =>
    obtain rfl := Option.some.inj h
    rw [Bool.and_eq_true] at hdown
    exact of_decide_eq_true hdown.1
  · split at h
    · next hup =>
      obtain rfl := Option.some.inj h
      exact of_decide_eq_true hup
    · cases h

/-- The numeral with as many places as a unit has is exact. -/
theorem rounds_exact {places : Nat} (hplaces : 1074 = places) :
    m.Rounds (m.units * Nat.pow 5 places) (Nat.pow 10 places) := by
  have hunit : Binary64.unitsPerOne = Nat.pow 2 places := by
    unfold Binary64.unitsPerOne
    rw [hplaces]
  have hten : Nat.pow 5 places * Nat.pow 2 places = Nat.pow 10 places :=
    (Nat.mul_pow 5 2 places).symm
  have hpos : 0 < Nat.pow 10 places := Nat.pow_pos (by decide)
  apply rounds_of_eq hpos
  rw [hunit, Nat.mul_assoc, hten]

/-- The shortest numeral lies in the rounding interval. -/
theorem rounds_shortest (m : Magnitude) :
    m.Rounds m.shortest.digits (Nat.pow 10 m.shortest.places) := by
  unfold shortest
  split
  · next hzero =>
    apply rounds_of_eq Nat.one_pos
    rw [hzero, Nat.zero_mul, Nat.zero_mul]
  · cases hgrid : m.gridExponents.findSome? m.nearestOnGrid with
    | some d =>
      obtain ⟨k, -, hk⟩ := List.exists_of_findSome?_eq_some hgrid
      exact rounds_of_nearestOnGrid hk
    | none =>
      generalize hplaces : 1074 = places
      exact rounds_exact hplaces

/-- **Numerals read back**: the shortest numeral of a magnitude is read as the magnitude. -/
theorem toBinary64_shortest (m : Magnitude) (negative : Bool) :
    m.shortest.toBinary64 negative = .finite negative m :=
  toBinary64_of_rounds m.rounds_shortest negative

/-- So it is with a zero behind it. -/
theorem toBinary64_shortest_zero (m : Magnitude) (negative : Bool) :
    (Decimal.mk (10 * m.shortest.digits) (m.shortest.places + 1)).toBinary64 negative =
      .finite negative m := by
  apply toBinary64_of_rounds
  have h := m.rounds_shortest.mul (c := 10) (by decide)
  rwa [Nat.mul_comm] at h

end Magnitude

/-! ## Which numerals are finite -/

/-- The double has a numeral: it is finite and has no sign. -/
def Binary64.HasNumeral (x : Binary64) : Prop := ∃ m, x = .finite false m

theorem Binary64.unitsPerOne_pos : 0 < unitsPerOne := by
  unfold unitsPerOne
  generalize 1074 = places
  exact Nat.two_pow_pos places

namespace Decimal

/-- The least number beyond all finite doubles, half a step above the largest one. -/
def overflow : Nat := (2 ^ 54 - 1) * 2 ^ 970

theorem overflowUnits_eq : Magnitude.overflowUnits = overflow * Binary64.unitsPerOne := by
  unfold Magnitude.overflowUnits overflow Binary64.unitsPerOne
  -- as numerals the powers would be multiplied out
  generalize hn : 2044 = n
  generalize hp : 970 = p
  generalize hq : 1074 = q
  obtain rfl : n = p + q := by omega
  rw [Nat.pow_eq, Nat.pow_add, ← Nat.mul_assoc]
  rfl

/-- A decimal is read as a finite double below the overflow, and as infinite from there on. -/
theorem toBinary64_cases (d : Decimal) :
    (d.digits < overflow * Nat.pow 10 d.places ∧ (d.toBinary64 false).HasNumeral) ∨
      (overflow * Nat.pow 10 d.places ≤ d.digits ∧ d.toBinary64 false = .infinite false) := by
  have hden : 0 < Nat.pow 10 d.places := Nat.pow_pos (by decide)
  have hnone : Magnitude.ofUnits (d.digits * Binary64.unitsPerOne) (Nat.pow 10 d.places) = none ↔
      _ := Magnitude.ofUnits_eq_none_iff hden
  rw [overflowUnits_eq, Nat.mul_right_comm,
    Nat.mul_le_mul_right_iff Binary64.unitsPerOne_pos] at hnone
  cases hunits : Magnitude.ofUnits (d.digits * Binary64.unitsPerOne) (Nat.pow 10 d.places) with
  | none => exact .inr ⟨hnone.1 hunits, Binary64.ofUnits_of_eq_none hunits false⟩
  | some m =>
    have hlt : d.digits < overflow * Nat.pow 10 d.places := by
      apply Nat.lt_of_not_le
      intro hle
      rw [hnone.2 hle] at hunits
      cases hunits
    exact .inl ⟨hlt, m, Binary64.ofUnits_of_eq_some hunits false⟩

/-! ## Numerals with an exponent -/

/-- A decimal of at most half the least positive double is read as zero. -/
theorem toBinary64_of_small {d : Decimal}
    (h : 2 * (d.digits * Binary64.unitsPerOne) ≤ Nat.pow 10 d.places) (negative : Bool) :
    d.toBinary64 negative = .finite negative .zero := by
  refine Magnitude.toBinary64_of_rounds ?_ negative
  have heven : Magnitude.zero.mantissa % 2 = 0 := rfl
  have hlower : Magnitude.zero.lowerQuarters = 0 := by
    rw [Magnitude.lowerQuarters, show Magnitude.zero.units = 0 from rfl, Nat.mul_zero, Nat.zero_sub]
  have hupper : Magnitude.zero.upperQuarters = 2 := rfl
  rw [Magnitude.Rounds, if_pos heven, hlower, hupper, Magnitude.quartersPerOne_mul, Nat.zero_mul]
  exact ⟨Nat.zero_le _, by omega⟩

/-- A numeral without an exponent is a decimal; also where its scale is out of reach. -/
theorem scientific_neg (d : Decimal) (negative : Bool) :
    scientific negative d.digits (-(d.places : Int)) = d.toBinary64 negative := by
  unfold scientific
  split
  · next hzero =>
    refine (toBinary64_of_small ?_ negative).symm
    rw [hzero, Nat.zero_mul]
    exact Nat.zero_le _
  rw [if_neg (by omega)]
  split
  · next hscale =>
    refine (toBinary64_of_small ?_ negative).symm
    -- as a numeral the power would be multiplied out
    obtain ⟨n, hn⟩ : ∃ n, n = 400 := ⟨_, rfl⟩
    have hunit : 2 * Binary64.unitsPerOne ≤ 10 ^ n := by
      subst hn
      decide +kernel
    obtain ⟨k, hk⟩ : ∃ k, d.places = n + (d.digits.log2 + 1) + k :=
      ⟨d.places - (n + (d.digits.log2 + 1)), by omega⟩
    have hdigits : d.digits ≤ 10 ^ (d.digits.log2 + 1) :=
      Nat.lt_log2_self.le.trans (Nat.pow_le_pow_left (by decide) _)
    rw [Nat.mul_left_comm, Nat.pow_eq, hk, Nat.pow_add, Nat.pow_add, Nat.mul_comm d.digits]
    exact (Nat.mul_le_mul hunit hdigits).trans (Nat.le_mul_of_pos_right _ (Nat.pow_pos (by decide)))
  · have hplaces : (- -(d.places : Int)).toNat = d.places := by omega
    have hnone : (-(d.places : Int)).toNat = 0 := by omega
    rw [hplaces, hnone, Nat.pow_eq, Nat.pow_zero, Nat.mul_one]
    rfl

end Decimal

/-! ## Text -/

namespace Decimal

variable (d : Decimal)

/-- All digits, with zeros in front if there would be none before the point. -/
def allDigits : List Char :=
  List.replicate (d.places + 1 - (Nat.toDigits 10 d.digits).length) '0' ++ Nat.toDigits 10 d.digits

/-- The digits before the point. -/
def wholeDigits : List Char := d.allDigits.take (d.allDigits.length - d.places)

/-- The digits after the point. -/
def fractionDigits : List Char := d.allDigits.drop (d.allDigits.length - d.places)

theorem wholeDigits_append : d.wholeDigits ++ d.fractionDigits = d.allDigits :=
  List.take_append_drop _ _

theorem lt_length_allDigits : d.places < d.allDigits.length := by
  simp only [allDigits, List.length_append, List.length_replicate]
  omega

theorem wholeDigits_ne_nil : d.wholeDigits ≠ [] := by
  have hlt := d.lt_length_allDigits
  intro hnil
  have hlen := congrArg List.length hnil
  simp only [wholeDigits, List.length_take, List.length_nil] at hlen
  omega

theorem length_fractionDigits : d.fractionDigits.length = d.places := by
  have hlt := d.lt_length_allDigits
  simp only [fractionDigits, List.length_drop]
  omega

theorem digitsValue_allDigits : Text.digitsValue d.allDigits = d.digits := by
  rw [allDigits, Text.digitsValue_replicate_append, Text.digitsValue_toDigits]

theorem isDigit_of_mem_allDigits {c : Char} (hc : c ∈ d.allDigits) : c.isDigit = true := by
  rcases List.mem_append.1 hc with hc | hc
  · rw [List.eq_of_mem_replicate hc]
    rfl
  · exact Text.isDigit_toDigits hc

theorem isDigit_of_mem_wholeDigits {c : Char} (hc : c ∈ d.wholeDigits) : c.isDigit = true :=
  d.isDigit_of_mem_allDigits (List.mem_of_mem_take hc)

theorem isDigit_of_mem_fractionDigits {c : Char} (hc : c ∈ d.fractionDigits) : c.isDigit = true :=
  d.isDigit_of_mem_allDigits (List.mem_of_mem_drop hc)

/-- The text of a numeral: a point stands between the digits only if there are some after it. -/
theorem toChars_eq :
    d.toChars = d.wholeDigits ++ if d.places = 0 then [] else '.' :: d.fractionDigits := by
  unfold toChars
  simp only
  split
  · next hplaces =>
    have hpos : 0 < (Nat.toDigits 10 d.digits).length := Nat.length_toDigits_pos
    have hnone : 0 + 1 - (Nat.toDigits 10 d.digits).length = 0 := by omega
    simp [wholeDigits, allDigits, hplaces, hnone]
  · rfl

end Decimal

end GridLayout

import Mathlib.Algebra.Order.Field.Rat
import Mathlib.Data.Nat.Dist
import Mathlib.Tactic.FieldSimp
import Mathlib.Tactic.Positivity
import GridLayout.Proofs.Binary64.Shortest

/-!
# Correct rounding

The double that a number is rounded to is found by one division. Here it is compared with all other
doubles: none is closer to the number, and if another one is as close, the double has the even
mantissa. Only a number that exceeds the largest double by half a step or more is infinite.

* `Magnitude.IsNearest` and `Binary64.IsRounded` say what it is to be rounded correctly, and
  `Binary64.IsRounded.unique` that there is one such double.
* `Magnitude.dist_le_of_ofUnits`: no magnitude is closer than the one that is computed.
* `Decimal.isRounded_toBinary64`: decimals are rounded correctly.
-/

namespace GridLayout

/-! ## Exact values -/

/-- The exact value of the magnitude. -/
def Magnitude.value (m : Magnitude) : ℚ := m.units / Binary64.unitsPerOne

/-- The exact value of the decimal. -/
def Decimal.value (d : Decimal) : ℚ := d.digits / 10 ^ d.places

/-- No magnitude is closer to the number, and no other one as close unless the mantissa is even. -/
structure Magnitude.IsNearest (m : Magnitude) (x : ℚ) : Prop where
  le : ∀ m' : Magnitude, |m.value - x| ≤ |m'.value - x|
  even : ∀ m' : Magnitude, m' ≠ m → |m'.value - x| = |m.value - x| → m.mantissa % 2 = 0

/-- The double to which a number that is not negative is rounded: the nearest one, of two the one
with the even mantissa, and the infinite one from the overflow on. -/
inductive Binary64.IsRounded : Binary64 → ℚ → Prop
  | finite {m : Magnitude} {x : ℚ} : x < Decimal.overflow → m.IsNearest x →
    IsRounded (.finite false m) x
  | infinite {x : ℚ} : (Decimal.overflow : ℚ) ≤ x → IsRounded (.infinite false) x

namespace Magnitude

variable {num den : Nat}

/-! ## Magnitudes in units -/

theorem units_eq (m : Magnitude) : m.units = m.mantissa * 2 ^ m.exponent := rfl

/-- Below an exponent all magnitudes are less than those of the exponent. -/
theorem units_lt (m : Magnitude) {e : Nat} (h : m.exponent < e) : m.units < leadingBit * 2 ^ e := by
  have hpow : 2 ^ m.exponent * 2 ≤ 2 ^ e := by
    rw [← Nat.pow_succ]
    exact Nat.pow_le_pow_right (by decide) h
  have hmantissa := Nat.mul_lt_mul_of_pos_right m.canonical.1 (Nat.two_pow_pos m.exponent)
  have hbit := Nat.mul_le_mul_left leadingBit hpow
  rw [units_eq]
  calc m.mantissa * 2 ^ m.exponent < 2 * leadingBit * 2 ^ m.exponent := hmantissa
    _ = leadingBit * (2 ^ m.exponent * 2) := by ring
    _ ≤ leadingBit * 2 ^ e := hbit

/-- A magnitude with an exponent above zero is one of those of the exponent. -/
theorem le_units (m : Magnitude) (h : 0 < m.exponent) :
    leadingBit * 2 ^ m.exponent ≤ m.units :=
  Nat.mul_le_mul_right _ (m.canonical.2.2.resolve_left h.ne')

theorem exponent_le_of_units_le {m m' : Magnitude} (h : m.units ≤ m'.units) :
    m.exponent ≤ m'.exponent := by
  by_contra! hlt
  have hbelow := m'.units_lt hlt
  have habove := m.le_units (Nat.zero_lt_of_lt hlt)
  omega

/-- A magnitude is written in one way only. -/
theorem units_injective {m m' : Magnitude} (h : m.units = m'.units) : m = m' := by
  have hexponent : m.exponent = m'.exponent :=
    le_antisymm (exponent_le_of_units_le h.le) (exponent_le_of_units_le h.ge)
  obtain ⟨mantissa, exponent, _⟩ := m
  obtain ⟨mantissa', exponent', _⟩ := m'
  obtain rfl : exponent = exponent' := hexponent
  obtain rfl : mantissa = mantissa' := Nat.eq_of_mul_eq_mul_right (Nat.two_pow_pos exponent) h
  rfl

/-! ## The nearest magnitude -/

/-- No integer is closer to a ratio than the one it is rounded to, and none as close unless that is
even. -/
theorem dist_roundHalfEven_le (num : Nat) (hden : 0 < den) (j : Nat) :
    (roundHalfEven num den * den).dist num ≤ (j * den).dist num ∧
      (j ≠ roundHalfEven num den →
        (j * den).dist num = (roundHalfEven num den * den).dist num →
        roundHalfEven num den % 2 = 0) := by
  obtain ⟨hlow, hhigh, hodd⟩ := roundHalfEven_spec num hden
  generalize roundHalfEven num den = k at *
  simp only [Nat.dist]
  -- another integer is a whole unit away from this one
  rcases lt_trichotomy j k with hlt | rfl | hlt
  · have hstep := Nat.mul_le_mul_right den (Nat.succ_le_of_lt hlt)
    rw [Nat.succ_mul] at hstep
    omega
  · omega
  · have hstep := Nat.mul_le_mul_right den (Nat.succ_le_of_lt hlt)
    rw [Nat.succ_mul] at hstep
    omega

/-- The computed magnitude is the rounded quotient times its power of two. -/
theorem units_of_ofUnits (hden : 0 < den) {m : Magnitude} (h : ofUnits num den = some m) {e k : Nat}
    (he : Nat.log2 (num / den) - 52 = e) (hk : roundHalfEven num (den * 2 ^ e) = k) :
    m.units = k * 2 ^ e ∧ (k % 2 = 0 → m.mantissa % 2 = 0) := by
  obtain ⟨hlow, hhigh⟩ := log2_sub_spec num hden he
  have hstep : 0 < den * 2 ^ e := Nat.mul_pos hden (Nat.two_pow_pos _)
  rw [Nat.mul_assoc, Nat.mul_comm (2 ^ e)] at hlow hhigh
  have hle : k ≤ 2 * leadingBit := hk ▸ roundHalfEven_le hhigh.le hstep
  have hnormal : e = 0 ∨ leadingBit ≤ k :=
    hlow.imp_right fun hlow => hk ▸ le_roundHalfEven hlow hstep
  rw [ofUnits_eq he hk] at h
  split at h
  · obtain rfl := Option.some.inj h
    exact ⟨rfl, id⟩
  · next hnot =>
    split at h
    · next hcanonical =>
      obtain rfl := Option.some.inj h
      -- only a mantissa that was rounded up to the next power of two has moved
      have hk : k = 2 * leadingBit := by
        by_contra hne
        exact hnot ⟨by omega, by have := hcanonical.2.1; omega, hnormal⟩
      subst hk
      have hhalf : 2 * leadingBit / 2 = leadingBit := rfl
      constructor
      · change 2 * leadingBit / 2 * 2 ^ (e + 1) = _
        rw [hhalf, Nat.pow_succ]
        ring
      · intro _
        change 2 * leadingBit / 2 % 2 = 0
        rw [hhalf]
        rfl
    · cases h

/-- **The computed magnitude is the nearest one**: in units, no other is closer to the ratio, and
none as close unless the mantissa is even. -/
theorem dist_le_of_ofUnits (hden : 0 < den) {m : Magnitude} (h : ofUnits num den = some m)
    (m' : Magnitude) :
    (m.units * den).dist num ≤ (m'.units * den).dist num ∧
      (m' ≠ m → (m'.units * den).dist num = (m.units * den).dist num → m.mantissa % 2 = 0) := by
  obtain ⟨e, he⟩ : ∃ e, Nat.log2 (num / den) - 52 = e := ⟨_, rfl⟩
  obtain ⟨k, hk⟩ : ∃ k, roundHalfEven num (den * 2 ^ e) = k := ⟨_, rfl⟩
  obtain ⟨hunits, heven⟩ := units_of_ofUnits hden h he hk
  have hstep : 0 < den * 2 ^ e := Nat.mul_pos hden (Nat.two_pow_pos _)
  have hscale (j : Nat) : j * 2 ^ e * den = j * (den * 2 ^ e) := by ring
  rw [hunits, hscale]
  by_cases hexponent : e ≤ m'.exponent
  · -- the other one is a multiple of the same step
    obtain ⟨j, hj⟩ : ∃ j, m'.units = j * 2 ^ e := by
      refine ⟨m'.mantissa * 2 ^ (m'.exponent - e), ?_⟩
      rw [units_eq, Nat.mul_assoc, ← Nat.pow_add, Nat.sub_add_cancel hexponent]
    obtain ⟨hle, htie⟩ := dist_roundHalfEven_le num hstep j
    rw [hk] at hle htie
    rw [hj, hscale]
    refine ⟨hle, fun hne heq => heven (htie ?_ heq)⟩
    rintro rfl
    exact hne (units_injective (hj.trans hunits.symm))
  · -- the other one is below all magnitudes of the exponent, and the ratio is not
    obtain ⟨hlow, -⟩ := log2_sub_spec num hden he
    have hnum : leadingBit * (den * 2 ^ e) ≤ num := by
      rw [← hscale]
      exact hlow.resolve_left (by omega)
    have hbelow : m'.units * den < leadingBit * (den * 2 ^ e) := by
      rw [← hscale]
      exact Nat.mul_lt_mul_of_pos_right (m'.units_lt (Nat.lt_of_not_le hexponent)) hden
    have hle := (dist_roundHalfEven_le num hstep leadingBit).1
    rw [hk] at hle
    simp only [Nat.dist] at hle ⊢
    constructor <;> omega

/-! ## Distances of values -/

/-- The distance to a ratio is the distance in units. -/
theorem abs_value_sub (m : Magnitude) (n : Nat) (hden : 0 < den) :
    |m.value - (n / den : ℚ)| =
      ((m.units * den).dist (n * Binary64.unitsPerOne) : ℚ) / (Binary64.unitsPerOne * den) := by
  have hone : (0 : ℚ) < Binary64.unitsPerOne := Nat.cast_pos.2 Binary64.unitsPerOne_pos
  have hpos : (0 : ℚ) < den := Nat.cast_pos.2 hden
  have hsub : m.value - (n / den : ℚ) =
      (m.units * den - n * Binary64.unitsPerOne) / (Binary64.unitsPerOne * den) := by
    unfold value
    -- as a numeral the power would be multiplied out
    generalize (Binary64.unitsPerOne : ℚ) = one at *
    field_simp
  have hdist (a b : Nat) : |(a : ℚ) - b| = (a.dist b : ℚ) := by
    rcases Nat.le_total a b with hle | hle
    · rw [Nat.dist_eq_sub_of_le hle, Nat.cast_sub hle, abs_sub_comm, abs_of_nonneg]
      exact sub_nonneg.2 (Nat.cast_le.2 hle)
    · rw [Nat.dist_eq_sub_of_le_right hle, Nat.cast_sub hle, abs_of_nonneg]
      exact sub_nonneg.2 (Nat.cast_le.2 hle)
  rw [hsub, abs_div, abs_of_pos (mul_pos hone hpos), ← hdist]
  push_cast
  rfl

/-- The computed magnitude is the nearest one to the ratio. -/
theorem isNearest_of_ofUnits {n : Nat} (hden : 0 < den) {m : Magnitude}
    (h : ofUnits (n * Binary64.unitsPerOne) den = some m) : m.IsNearest (n / den) := by
  have hone : (0 : ℚ) < Binary64.unitsPerOne := Nat.cast_pos.2 Binary64.unitsPerOne_pos
  have hscale : (0 : ℚ) < Binary64.unitsPerOne * den := mul_pos hone (Nat.cast_pos.2 hden)
  constructor
  · intro m'
    rw [abs_value_sub m n hden, abs_value_sub m' n hden]
    have hle := (dist_le_of_ofUnits hden h m').1
    exact div_le_div_of_nonneg_right (Nat.cast_le.2 hle) hscale.le
  · intro m' hne heq
    rw [abs_value_sub m n hden, abs_value_sub m' n hden, div_left_inj' hscale.ne',
      Nat.cast_inj] at heq
    exact (dist_le_of_ofUnits hden h m').2 hne heq

theorem value_lt_value {m m' : Magnitude} : m.value < m'.value ↔ m.units < m'.units := by
  have hone : (0 : ℚ) < Binary64.unitsPerOne := Nat.cast_pos.2 Binary64.unitsPerOne_pos
  rw [value, value, div_lt_div_iff_of_pos_right hone, Nat.cast_lt]

/-! ## There is one nearest magnitude -/

/-- Between two magnitudes with even mantissas there is another one. -/
theorem exists_between {m m' : Magnitude} (hlt : m.units < m'.units) (h : m.mantissa % 2 = 0)
    (h' : m'.mantissa % 2 = 0) : ∃ m'' : Magnitude, m.units < m''.units ∧ m''.units < m'.units := by
  have hpos := Nat.two_pow_pos m.exponent
  obtain ⟨hmantissa, hexponent, hnormal⟩ := m.canonical
  -- the next one of the same exponent
  have hnext : Canonical (m.mantissa + 1) m.exponent :=
    ⟨by omega, hexponent, hnormal.imp_right Nat.le_succ_of_le⟩
  have hunits : units ⟨m.mantissa + 1, m.exponent, hnext⟩ = m.units + 2 ^ m.exponent :=
    Nat.succ_mul _ _
  refine ⟨⟨m.mantissa + 1, m.exponent, hnext⟩, by omega, ?_⟩
  obtain ⟨j, hj⟩ : ∃ j, m'.units = j * 2 ^ m.exponent := by
    refine ⟨m'.mantissa * 2 ^ (m'.exponent - m.exponent), ?_⟩
    rw [units_eq, Nat.mul_assoc, ← Nat.pow_add,
      Nat.sub_add_cancel (exponent_le_of_units_le hlt.le)]
  have hjlt : m.mantissa < j := by
    rw [hj, units_eq] at hlt
    exact Nat.lt_of_mul_lt_mul_right hlt
  refine lt_of_le_of_ne ?_ fun heq => ?_
  · rw [hj]
    exact Nat.mul_le_mul_right _ (Nat.succ_le_of_lt hjlt)
  · have hodd : m'.mantissa = m.mantissa + 1 := congrArg mantissa (units_injective heq).symm
    omega

/-- Of two different magnitudes at most one is nearest. -/
theorem IsNearest.not_units_lt {m m' : Magnitude} {x : ℚ} (h : m.IsNearest x)
    (h' : m'.IsNearest x) : ¬m.units < m'.units := by
  intro hlt
  have heq : |m'.value - x| = |m.value - x| := le_antisymm (h'.le m) (h.le m')
  have hne : m' ≠ m := by
    rintro rfl
    exact lt_irrefl _ hlt
  obtain ⟨m'', hlow, hhigh⟩ := exists_between hlt (h.even m' hne heq) (h'.even m hne.symm heq.symm)
  have hvalue := value_lt_value.2 hlt
  have hlow := value_lt_value.2 hlow
  have hhigh := value_lt_value.2 hhigh
  -- the number is in the middle, so what lies between is closer
  have hmiddle : m'.value - x = -(m.value - x) := by
    rcases abs_eq_abs.1 heq with hsame | hopposite
    · linarith
    · exact hopposite
  have hcloser := h.le m''
  rw [abs_of_nonpos (by linarith : m.value - x ≤ 0)] at hcloser
  rcases abs_cases (m''.value - x) with ⟨habs, -⟩ | ⟨habs, -⟩ <;> linarith

theorem IsNearest.unique {m m' : Magnitude} {x : ℚ} (h : m.IsNearest x) (h' : m'.IsNearest x) :
    m = m' :=
  units_injective (le_antisymm (Nat.le_of_not_lt (h'.not_units_lt h))
    (Nat.le_of_not_lt (h.not_units_lt h')))

end Magnitude

/-- A number is rounded to one double. -/
theorem Binary64.IsRounded.unique {v v' : Binary64} {x : ℚ} (h : v.IsRounded x)
    (h' : v'.IsRounded x) : v = v' := by
  cases h with
  | finite hlt hnearest =>
    cases h' with
    | finite _ hnearest' => rw [hnearest.unique hnearest']
    | infinite hle => exact absurd hle hlt.not_ge
  | infinite hle =>
    cases h' with
    | finite hlt _ => exact absurd hle hlt.not_ge
    | infinite _ => rfl

/-- A rounded number is neither below zero nor not a number. -/
theorem Binary64.IsRounded.nonneg {v : Binary64} {x : ℚ} (h : v.IsRounded x) :
    v ≠ .nan ∧ v.isNegative = false := by
  cases h with
  | finite | infinite => exact ⟨by simp, rfl⟩

namespace Decimal

/-- **Decimals are rounded correctly.** -/
theorem isRounded_toBinary64 (d : Decimal) : (d.toBinary64 false).IsRounded d.value := by
  have hden : 0 < Nat.pow 10 d.places := Nat.pow_pos (by decide)
  have hten : (0 : ℚ) < (Nat.pow 10 d.places : Nat) := Nat.cast_pos.2 hden
  have hvalue : d.value = d.digits / (Nat.pow 10 d.places : Nat) := by
    rw [value, Nat.pow_eq, Nat.cast_pow, Nat.cast_ofNat]
  rw [hvalue]
  rcases d.toBinary64_cases with ⟨hlt, m, hm⟩ | ⟨hle, hinfinite⟩
  · rw [hm]
    refine .finite ?_ (Magnitude.isNearest_of_ofUnits hden (Binary64.ofUnits_eq_finite_iff.1 hm))
    rw [div_lt_iff₀ hten, ← Nat.cast_mul, Nat.cast_lt]
    exact hlt
  · rw [hinfinite]
    refine .infinite ?_
    rw [le_div_iff₀ hten, ← Nat.cast_mul, Nat.cast_le]
    exact hle

theorem isRounded_iff {d : Decimal} {v : Binary64} :
    v.IsRounded d.value ↔ v = d.toBinary64 false := by
  constructor
  · intro h
    exact h.unique d.isRounded_toBinary64
  · rintro rfl
    exact d.isRounded_toBinary64

end Decimal

end GridLayout

import GridLayout.Length.Basic
import GridLayout.Platform
import GridLayout.Proofs.Binary64.Nearest

/-!
# Rounding to pixels

A length in pixels is rounded by adding one half and taking the floor. The sum is itself a double,
so it may be rounded too, and then the floor is that of another number. For lengths within 32 bits
this matters for a single double, the one just below one half: its sum with one half lies in the
middle between the last double below one and one, and is rounded up.

* `Magnitude.IsRoundedAt`: what rounding a whole number of units can do, at the exponent with which
  it is rounded.
* `Magnitude.IsRoundedAt.add_half_div`: the sum with one half is not rounded up to the next whole
  number, except for that of `Magnitude.belowHalf`.
* `Binary64.roundToPixel_finite`: so the floor is that of the exact sum, for both signs.
* `Length.isNearestInt_toPixels_iff`: a length is rounded to the nearest number of pixels, halves
  going up, exactly if its value is not that double.
-/

namespace GridLayout

/-- The integer is the one nearest to the number, a half going up. -/
def IsNearestInt (r : Int) (x : ℚ) : Prop := (r : ℚ) - 1 / 2 ≤ x ∧ x < r + 1 / 2

namespace Magnitude

/-- The exact value of the double with this magnitude and a sign. -/
def signedValue (m : Magnitude) (negative : Bool) : ℚ := if negative then -m.value else m.value

/-! ## Rounding whole numbers of units -/

/-- The magnitude is what so many units are rounded to, as a multiple of a power of two: no multiple
of the power lies between, and the magnitude is at most half of the power above. -/
structure IsRoundedAt (m : Magnitude) (n e : Nat) : Prop where
  lower : e = 0 ∨ leadingBit * 2 ^ e ≤ n
  upper : n < leadingBit * 2 ^ (e + 1)
  le_add_half : 2 * m.units ≤ 2 * n + 2 ^ e
  le_units : ∀ j, j * 2 ^ e ≤ n → j * 2 ^ e ≤ m.units
  units_le : ∀ j, n ≤ j * 2 ^ e → m.units ≤ j * 2 ^ e

theorem exists_isRoundedAt {n : Nat} (h : n < overflowUnits) :
    ∃ m e, ofUnits n 1 = some m ∧ m.IsRoundedAt n e := by
  obtain ⟨m, hm⟩ : ∃ m, ofUnits n 1 = some m := by
    refine Option.ne_none_iff_exists'.1 fun hnone => ?_
    have hle := (ofUnits_eq_none_iff Nat.one_pos).1 hnone
    omega
  obtain ⟨e, he⟩ : ∃ e, Nat.log2 (n / 1) - 52 = e := ⟨_, rfl⟩
  obtain ⟨hlower, hupper⟩ := log2_sub_spec n Nat.one_pos he
  obtain ⟨hunits, -⟩ := units_of_ofUnits Nat.one_pos hm he rfl
  have hstep : 0 < 2 ^ e := Nat.two_pow_pos e
  rw [Nat.one_mul] at hunits
  rw [Nat.mul_one] at hlower hupper
  refine ⟨m, e, hm, hlower, ?_, ?_, fun j hj => ?_, fun j hj => ?_⟩
  · rw [Nat.pow_succ]
    linarith
  · rw [hunits]
    exact (roundHalfEven_spec n hstep).1
  · rw [hunits]
    exact Nat.mul_le_mul_right _ (le_roundHalfEven hj hstep)
  · rw [hunits]
    exact Nat.mul_le_mul_right _ (roundHalfEven_le hj hstep)

namespace IsRoundedAt

variable {m : Magnitude} {n e e' : Nat}

/-- The exponent is the least one at which the units have 53 bits. -/
theorem le_of_lt (h : m.IsRoundedAt n e) (hn : n < leadingBit * 2 ^ (e' + 1)) : e ≤ e' := by
  by_contra! hlt
  have hpow : 2 ^ (e' + 1) ≤ 2 ^ e := Nat.pow_le_pow_right (by decide) hlt
  have hmul := Nat.mul_le_mul_left leadingBit hpow
  have hlower := h.lower.resolve_left (by omega)
  omega

/-- A multiple of the power is not changed. -/
theorem units_eq_of_dvd (h : m.IsRoundedAt n e) (hdvd : 2 ^ e ∣ n) : m.units = n := by
  obtain ⟨j, rfl⟩ := hdvd
  rw [Nat.mul_comm] at h ⊢
  exact le_antisymm (h.units_le j le_rfl) (h.le_units j le_rfl)

/-- Units that have 53 bits at some exponent are not changed. -/
theorem units_eq_of_lt (h : m.IsRoundedAt n e) (hdvd : 2 ^ e' ∣ n)
    (hn : n < leadingBit * 2 ^ (e' + 1)) : m.units = n :=
  h.units_eq_of_dvd ((Nat.pow_dvd_pow 2 (h.le_of_lt hn)).trans hdvd)

end IsRoundedAt

/-! ## Adding one half -/

/-- One half in units, if the magnitudes just below it lie `2 ^ p` units apart. -/
def halfAt (p : Nat) : Nat := 2 * leadingBit * 2 ^ p

section

variable {m r : Magnitude} {n e p : Nat}

theorem halfAt_eq (p : Nat) : halfAt p = 9007199254740992 * 2 ^ p := rfl

theorem halfAt_pos (p : Nat) : 0 < halfAt p := Nat.mul_pos (by decide) (Nat.two_pow_pos p)

theorem two_pow_eq_halfAt (p : Nat) : 2 ^ (p + 53) = halfAt p := by
  rw [halfAt_eq, Nat.pow_add, Nat.mul_comm]

/-- Magnitudes within 32 bits are multiples of a power of two that divides one half. -/
theorem exponent_le_of_units_lt (hu : m.units < 2 ^ 31 * (2 * halfAt p)) : m.exponent ≤ p + 53 := by
  by_contra! hlt
  have hpow : 2 ^ (p + 53 + 1) ≤ 2 ^ m.exponent := Nat.pow_le_pow_right Nat.two_pos hlt
  have hle := m.le_units (Nat.zero_lt_of_lt hlt)
  rw [Nat.pow_succ, two_pow_eq_halfAt] at hpow
  rw [leadingBit_eq] at hle
  omega

/-- There is one magnitude so close below one half. -/
theorem eq_of_le_of_lt (hlow : halfAt p ≤ m.units + 2 ^ p) (hhigh : m.units < halfAt p) :
    m.mantissa = 2 * leadingBit - 1 ∧ m.exponent = p := by
  rw [halfAt_eq] at hlow hhigh
  have hexponent : m.exponent = p := by
    rcases Nat.lt_trichotomy m.exponent p with hlt | heq | hgt
    · have hbelow := m.units_lt hlt
      rw [leadingBit_eq] at hbelow
      omega
    · exact heq
    · have hpow : 2 ^ (p + 1) ≤ 2 ^ m.exponent := Nat.pow_le_pow_right Nat.two_pos hgt
      have habove := m.le_units (Nat.zero_lt_of_lt hgt)
      rw [leadingBit_eq] at habove
      omega
  have hmantissa : 9007199254740992 ≤ m.mantissa + 1 := by
    rw [units_eq, hexponent, ← Nat.succ_mul] at hlow
    exact Nat.le_of_mul_le_mul_right hlow (Nat.two_pow_pos p)
  have hcanonical := m.canonical.1
  rw [leadingBit_eq] at hcanonical ⊢
  exact ⟨by omega, hexponent⟩

namespace IsRoundedAt

/-- A sum with one half that is below one is rounded up to one for that magnitude only. -/
theorem lt_one (h : r.IsRoundedAt (m.units + halfAt p) e) (he : e ≤ p + 1)
    (hbelow : m.units < leadingBit * 2 ^ e)
    (hne : ¬(m.mantissa = 2 * leadingBit - 1 ∧ m.exponent = p)) : r.units < 2 * halfAt p := by
  by_contra! hone
  have hsum := h.le_add_half
  have hhalf := halfAt_eq p
  rw [leadingBit_eq] at hbelow
  rcases he.lt_or_eq with hlt | rfl
  · have hpow : 2 ^ e ≤ 2 ^ p := Nat.pow_le_pow_right Nat.two_pos (Nat.le_of_lt_succ hlt)
    omega
  · exact hne (eq_of_le_of_lt (by omega) (by omega))

/-- After a power of two that is a whole number, rounding does not reach the next whole number from
the half before it. -/
theorem div_eq_of_whole (h : r.IsRoundedAt n e) {half j : Nat}
    (hwhole : leadingBit * 2 ^ e = j * (2 * half)) (hlow : j * (2 * half) ≤ n)
    (hhigh : n < j * (2 * half) + half) (hstep : 2 ^ e ≤ half) :
    r.units / (2 * half) = n / (2 * half) := by
  have hat : j * (2 * half) ≤ r.units := hwhole ▸ h.le_units leadingBit (hwhole ▸ hlow)
  have hsum := h.le_add_half
  have hnext : (j + 1) * (2 * half) = j * (2 * half) + 2 * half := Nat.succ_mul _ _
  rw [Nat.div_eq_of_lt_le hat (by omega), Nat.div_eq_of_lt_le hlow (by omega)]

/-- **Adding one half to a magnitude within 32 bits has the whole part of the exact sum**, although
the sum is rounded, except for the magnitude just below one half. -/
theorem add_half_div (h : r.IsRoundedAt (m.units + halfAt p) e)
    (hu : m.units < 2 ^ 31 * (2 * halfAt p))
    (hne : ¬(m.mantissa = 2 * leadingBit - 1 ∧ m.exponent = p)) :
    r.units / (2 * halfAt p) = (m.units + halfAt p) / (2 * halfAt p) := by
  have hexponent := exponent_le_of_units_lt hu
  by_cases he : e ≤ m.exponent
  · -- the sum needs no more bits than the magnitude does
    have hdvd : 2 ^ e ∣ m.units + halfAt p := by
      rw [← two_pow_eq_halfAt]
      exact ((Nat.pow_dvd_pow 2 he).trans (Dvd.intro_left _ rfl)).add
        (Nat.pow_dvd_pow 2 (he.trans hexponent))
    rw [h.units_eq_of_dvd hdvd]
  -- the sum lies after a power of two that the magnitude is below
  have hbelow : m.units < leadingBit * 2 ^ e := m.units_lt (Nat.lt_of_not_le he)
  have hlower := h.lower.resolve_left (by omega)
  rcases Nat.lt_or_ge (p + 1) e with hlarge | hsmall
  · obtain ⟨k, rfl⟩ := Nat.exists_eq_add_of_le (show p + 2 ≤ e by omega)
    have hwhole : leadingBit * 2 ^ (p + 2 + k) = 2 ^ k * (2 * halfAt p) := by
      rw [halfAt]
      ring
    have hstep : 2 ^ (p + 2 + k) ≤ halfAt p := by
      rw [← two_pow_eq_halfAt]
      refine Nat.pow_le_pow_right Nat.two_pos (h.le_of_lt ?_)
      rw [Nat.pow_succ, two_pow_eq_halfAt, leadingBit_eq]
      omega
    rw [hwhole] at hbelow hlower
    exact h.div_eq_of_whole hwhole hlower (by omega) hstep
  · have hpow : 2 ^ e ≤ 2 ^ (p + 1) := Nat.pow_le_pow_right Nat.two_pos hsmall
    have hsum : m.units + halfAt p < 2 * halfAt p := by
      rw [leadingBit_eq] at hbelow
      rw [halfAt_eq]
      omega
    rw [Nat.div_eq_of_lt hsum, Nat.div_eq_of_lt (h.lt_one hsmall hbelow hne)]

/-- Taking one half from a larger magnitude is exact. -/
theorem sub_half (h : r.IsRoundedAt (m.units - halfAt p) e)
    (hu : m.units < 2 ^ 31 * (2 * halfAt p)) : r.units = m.units - halfAt p := by
  have hdvd : 2 ^ m.exponent ∣ m.units - halfAt p := by
    rw [← two_pow_eq_halfAt]
    exact Nat.dvd_sub (Dvd.intro_left _ rfl) (Nat.pow_dvd_pow 2 (exponent_le_of_units_lt hu))
  have hlt : m.units - halfAt p < leadingBit * 2 ^ (m.exponent + 1) := by
    have hmantissa := Nat.mul_lt_mul_of_pos_right m.canonical.1 (Nat.two_pow_pos m.exponent)
    have hsub := Nat.sub_le m.units (halfAt p)
    rw [← units_eq] at hmantissa
    rw [Nat.pow_succ]
    linarith
  exact h.units_eq_of_lt hdvd hlt

/-- What is not above one half is not rounded above it. -/
theorem le_half (h : r.IsRoundedAt n e) (hn : n ≤ halfAt p) : r.units ≤ halfAt p := by
  have he : e ≤ p + 1 := by
    apply h.le_of_lt
    have hpos := Nat.two_pow_pos p
    rw [halfAt_eq] at hn
    rw [leadingBit_eq]
    omega
  obtain ⟨k, hk⟩ := Nat.exists_eq_add_of_le he
  have hhalf : halfAt p = leadingBit * 2 ^ k * 2 ^ e := by
    rw [Nat.mul_assoc, ← Nat.pow_add, Nat.add_comm, ← hk, halfAt, Nat.pow_succ]
    ring
  rw [hhalf] at hn ⊢
  exact h.units_le _ hn

end IsRoundedAt

end

/-- The magnitude just below one half. -/
def belowHalf : Magnitude := ⟨2 * leadingBit - 1, 1020, by decide⟩

theorem value_eq_of_units {m : Magnitude} {a b : Nat} (hb : 0 < b)
    (h : m.units * b = a * Binary64.unitsPerOne) : m.value = a / b := by
  have hone : (Binary64.unitsPerOne : ℚ) ≠ 0 := Nat.cast_ne_zero.2 Binary64.unitsPerOne_pos.ne'
  rw [value, div_eq_div_iff hone (Nat.cast_ne_zero.2 hb.ne')]
  exact_mod_cast h

theorem signedValue_belowHalf : belowHalf.signedValue false = 1 / 2 - 1 / 2 ^ 54 := by
  have hunits : belowHalf.units * 2 ^ 54 = (2 ^ 53 - 1) * Binary64.unitsPerOne := by decide +kernel
  rw [signedValue, if_neg Bool.false_ne_true, value_eq_of_units (by decide) hunits]
  norm_num

end Magnitude

/-! ## Whole numbers of pixels -/

/-- The floor of a ratio and one half is the nearest integer. -/
theorem isNearestInt_ediv (z : Int) {half : Nat} (hpos : 0 < half) :
    IsNearestInt ((z + half) / (2 * half : Nat)) (z / (2 * half : Nat)) := by
  have hone : (0 : ℚ) < (2 * half : Nat) := Nat.cast_pos.2 (by omega)
  have hlow : (z + half) / (2 * half : Nat) * (2 * half : Nat) ≤ z + half :=
    Int.ediv_mul_le _ (by omega)
  have hhigh : z + half < ((z + half) / (2 * half : Nat) + 1) * (2 * half : Nat) :=
    Int.lt_ediv_add_one_mul_self _ (by omega)
  generalize (z + half) / (2 * half : Nat) = r at *
  rw [IsNearestInt, le_div_iff₀ hone, div_lt_iff₀ hone]
  have hlow : (r * (2 * half : Nat) : ℚ) ≤ z + half := by exact_mod_cast hlow
  have hhigh : (z + half : ℚ) < (r + 1) * (2 * half : Nat) := by exact_mod_cast hhigh
  push_cast at hlow hhigh ⊢
  constructor <;> linarith

namespace Binary64

open Magnitude

/-- The double just below one half. -/
def belowHalf : Binary64 := .finite false .belowHalf

theorem unitsPerOne_eq : unitsPerOne = 2 * halfAt 1020 := by decide +kernel

theorem half_eq : half = .finite false ⟨leadingBit, 1021, by decide⟩ := by decide +kernel

theorem units_half : units ⟨leadingBit, 1021, by decide⟩ = halfAt 1020 := by decide +kernel

variable {negative : Bool} {m : Magnitude}

theorem signedUnits_zero (negative : Bool) : signedUnits negative .zero = 0 := by
  cases negative <;> rfl

/-- The floor of a rounded sum is that of the exact one, if rounding keeps the whole part of a
positive sum and does not change a negative one. -/
theorem floorInt32_of_rounded {sum : Int} {r : Magnitude}
    (hr : Magnitude.ofUnits sum.natAbs 1 = some r)
    (hpos : 0 < sum → r.units / unitsPerOne = sum.natAbs / unitsPerOne)
    (hneg : sum < 0 → r.units = sum.natAbs) :
    (if sum = 0 then .finite negative .zero
      else ofUnits (sum < 0) sum.natAbs 1 : Binary64).floorInt32 =
      clampInt32 (sum / unitsPerOne) := by
  rw [ofUnits_of_eq_some hr]
  rcases lt_trichotomy sum 0 with h | rfl | h
  · rw [if_neg h.ne, floorInt32, signedUnits, if_pos (decide_eq_true h), hneg h,
      Int.ofNat_natAbs_of_nonpos h.le, neg_neg]
  · rw [if_pos rfl, floorInt32, signedUnits_zero]
  · have hsigned : signedUnits (decide (sum < 0)) r = r.units := by
      rw [signedUnits, if_neg (by simpa using h.le)]
    rw [if_neg h.ne', floorInt32, hsigned, ← Int.natCast_ediv, hpos h, Int.natCast_ediv,
      Int.natAbs_of_nonneg h.le]

theorem ne_of_ne_belowHalf (hne : Binary64.finite false m ≠ belowHalf) :
    ¬(m.mantissa = 2 * leadingBit - 1 ∧ m.exponent = 1020) := by
  obtain ⟨mantissa, exponent, _⟩ := m
  rintro ⟨rfl, rfl⟩
  exact hne rfl

/-- The sum with one half is rounded once. -/
theorem finite_add_half (negative : Bool) (m : Magnitude) : Binary64.finite negative m + half =
    let sum := signedUnits negative m + halfAt 1020
    if sum = 0 then .finite (negative && false) .zero else ofUnits (sum < 0) sum.natAbs 1 := by
  rw [half_eq, ← units_half]
  rfl

/-- **Within 32 bits the rounded sum with one half has the floor of the exact one**, except for the
double just below one half. -/
theorem roundToPixel_finite (hu : m.units < 2 ^ 31 * unitsPerOne)
    (hne : Binary64.finite negative m ≠ belowHalf) : (Binary64.finite negative m).roundToPixel =
      clampInt32 ((signedUnits negative m + halfAt 1020) / unitsPerOne) := by
  rw [unitsPerOne_eq] at hu
  have hround {n : Nat} (hn : n ≤ m.units + halfAt 1020) :
      ∃ r e, Magnitude.ofUnits n 1 = some r ∧ r.IsRoundedAt n e := by
    have hoverflow : 2 ^ 32 * unitsPerOne ≤ overflowUnits := by decide +kernel
    apply exists_isRoundedAt
    rw [unitsPerOne_eq] at hoverflow
    omega
  rw [roundToPixel, finite_add_half]
  cases negative with
  | false =>
    have hsum : signedUnits false m + halfAt 1020 = (m.units + halfAt 1020 : Nat) := rfl
    obtain ⟨r, e, hr, hat⟩ := hround le_rfl
    rw [hsum]
    refine floorInt32_of_rounded hr (fun _ => ?_) (fun hneg => by omega)
    rw [unitsPerOne_eq]
    exact hat.add_half_div hu (ne_of_ne_belowHalf hne)
  | true =>
    have hsum : signedUnits true m + halfAt 1020 = halfAt 1020 - (m.units : Int) := by
      rw [signedUnits, if_pos rfl]
      ring
    rw [hsum]
    rcases Nat.le_total m.units (halfAt 1020) with hle | hle
    · -- neither the sum nor what it is rounded to is above one half
      have habs : (halfAt 1020 - (m.units : Int)).natAbs = halfAt 1020 - m.units := by omega
      obtain ⟨r, e, hr, hat⟩ := hround (n := halfAt 1020 - m.units) (by omega)
      have hhalf := hat.le_half (p := 1020) (by omega)
      have hpositive := halfAt_pos 1020
      rw [← habs] at hr
      refine floorInt32_of_rounded hr (fun _ => ?_) (fun hneg => by omega)
      rw [habs, unitsPerOne_eq, Nat.div_eq_of_lt (by omega), Nat.div_eq_of_lt (by omega)]
    · have habs : (halfAt 1020 - (m.units : Int)).natAbs = m.units - halfAt 1020 := by omega
      obtain ⟨r, e, hr, hat⟩ := hround (n := m.units - halfAt 1020) (by omega)
      rw [← habs] at hr
      refine floorInt32_of_rounded hr (fun hpos => by omega) (fun _ => ?_)
      rw [habs]
      exact hat.sub_half hu

theorem signedValue_eq (negative : Bool) (m : Magnitude) :
    m.signedValue negative = (signedUnits negative m : ℚ) / unitsPerOne := by
  cases negative
  · rfl
  · change -(m.units / unitsPerOne : ℚ) = ((-(m.units : Int) : Int) : ℚ) / unitsPerOne
    rw [Int.cast_neg, Int.cast_natCast, neg_div]

theorem clampInt32_eq_self {n : Int} (h : |n| ≤ 2 ^ 31 - 1) : clampInt32 n = n := by
  obtain ⟨hlow, hhigh⟩ := abs_le.1 h
  unfold clampInt32
  omega

/-- The values within 32 bits, in units. -/
theorem abs_signedUnits_lt (h : |m.signedValue negative| < 2 ^ 31 - 1) :
    |signedUnits negative m| < (2 ^ 31 - 1) * unitsPerOne := by
  have hone : (0 : ℚ) < unitsPerOne := Nat.cast_pos.2 unitsPerOne_pos
  rw [signedValue_eq, abs_div, abs_of_pos hone, div_lt_iff₀ hone] at h
  exact_mod_cast h

/-- Within 32 bits a number is rounded to the nearest integer, halves going up, unless it is the one
just below one half. -/
theorem isNearestInt_roundToPixel (h : |m.signedValue negative| < 2 ^ 31 - 1)
    (hne : Binary64.finite negative m ≠ belowHalf) :
    IsNearestInt (Binary64.finite negative m).roundToPixel (m.signedValue negative) := by
  have hunits := abs_signedUnits_lt h
  have habs : |signedUnits negative m| = m.units := by
    cases negative with
    | false => exact abs_of_nonneg (Int.natCast_nonneg _)
    | true => exact (abs_neg _).trans (abs_of_nonneg (Int.natCast_nonneg _))
  have hclamp : |(signedUnits negative m + halfAt 1020) / (unitsPerOne : Int)| ≤ 2 ^ 31 - 1 := by
    obtain ⟨hlow, hhigh⟩ := abs_lt.1 hunits
    have hpos := halfAt_pos 1020
    rw [unitsPerOne_eq] at hlow hhigh ⊢
    refine abs_le.2 ⟨(Int.le_ediv_iff_mul_le (by omega)).2 (by omega), Int.lt_add_one_iff.1 ?_⟩
    exact (Int.ediv_lt_iff_lt_mul (by omega)).2 (by omega)
  rw [roundToPixel_finite (by omega) hne, clampInt32_eq_self hclamp, signedValue_eq, unitsPerOne_eq]
  exact isNearestInt_ediv _ (halfAt_pos 1020)

theorem roundToPixel_belowHalf : belowHalf.roundToPixel = 1 := by decide +kernel

/-- One is not the integer nearest to a double that is below one half. -/
theorem not_isNearestInt_of_eq_belowHalf (heq : Binary64.finite negative m = belowHalf) :
    ¬IsNearestInt (Binary64.finite negative m).roundToPixel (m.signedValue negative) := by
  obtain ⟨rfl, rfl⟩ := Binary64.finite.inj heq
  rintro ⟨hlow, -⟩
  rw [← belowHalf, roundToPixel_belowHalf, signedValue_belowHalf] at hlow
  norm_num at hlow

end Binary64

namespace Length

open Binary64

/-- **A length in pixels is rounded to the nearest number of pixels**, a half going up, whatever the
screen measures and along both axes, exactly if its value is not the double just below one half,
which is rounded up to one. -/
theorem isNearestInt_toPixels_iff {negative : Bool} {m : Magnitude}
    (h : |m.signedValue negative| < 2 ^ 31 - 1) (metrics : Metrics) (axis : Axis) :
    let length : Length := ⟨.finite negative m, .pixel⟩
    (IsNearestInt (length.toPixels metrics axis) (m.signedValue negative) ↔
        Binary64.finite negative m ≠ belowHalf) ∧
      (Binary64.finite negative m = belowHalf → length.toPixels metrics axis = 1) := by
  intro length
  have hpixels : length.toPixels metrics axis = (Binary64.finite negative m).roundToPixel := rfl
  rw [hpixels]
  refine ⟨⟨fun hnearest heq => ?_, isNearestInt_roundToPixel h⟩, fun heq => ?_⟩
  · exact not_isNearestInt_of_eq_belowHalf heq hnearest
  · rw [heq, roundToPixel_belowHalf]

/-- Two and a half below zero is rounded up. -/
theorem isNearestInt_toPixels_minusTwoAndHalf :
    let m : Magnitude := ⟨5 * 2 ^ 50, 1023, by decide⟩
    let length : Length := ⟨.finite true m, .pixel⟩
    |m.signedValue true| < 2 ^ 31 - 1 ∧ m.signedValue true = -5 / 2 ∧
      IsNearestInt (length.toPixels Screen.default.metrics .vertical) (m.signedValue true) ∧
      length.toPixels Screen.default.metrics .vertical = -2 := by
  intro m length
  have hunits : m.units * 2 = 5 * unitsPerOne := by decide +kernel
  have hvalue : m.signedValue true = -5 / 2 := by
    rw [Magnitude.signedValue, if_pos rfl, Magnitude.value_eq_of_units (by decide) hunits]
    norm_num
  have hbound : |m.signedValue true| < 2 ^ 31 - 1 := by
    rw [hvalue, abs_div]
    norm_num
  have hne : Binary64.finite true m ≠ belowHalf := by simp [belowHalf]
  exact ⟨hbound, hvalue, (isNearestInt_toPixels_iff hbound _ _).1.2 hne, by decide +kernel⟩

/-- The double just below one half is rounded up to one. -/
theorem not_isNearestInt_toPixels_belowHalf :
    let length : Length := ⟨belowHalf, .pixel⟩
    |Magnitude.belowHalf.signedValue false| < 2 ^ 31 - 1 ∧
      length.toPixels Screen.default.metrics .horizontal = 1 ∧
      ¬IsNearestInt (length.toPixels Screen.default.metrics .horizontal)
        (Magnitude.belowHalf.signedValue false) := by
  intro length
  have hpixels : length.toPixels Screen.default.metrics .horizontal = belowHalf.roundToPixel := rfl
  have hnot : ¬IsNearestInt belowHalf.roundToPixel (Magnitude.belowHalf.signedValue false) :=
    not_isNearestInt_of_eq_belowHalf rfl
  rw [hpixels]
  refine ⟨?_, roundToPixel_belowHalf, hnot⟩
  rw [Magnitude.signedValue_belowHalf, abs_lt]
  norm_num

end Length

end GridLayout

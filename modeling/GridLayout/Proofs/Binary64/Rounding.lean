import Mathlib.Tactic.Linarith
import Mathlib.Tactic.Ring
import GridLayout.Binary64.Decimal

/-!
# Which ratios round to a magnitude

The nearest magnitude is found by one division: its exponent is that of the whole part of the
ratio, its mantissa the rounded quotient. Here this is compared with the rounding intervals of the
magnitudes, which are said without it.

* `Magnitude.ofUnits_of_rounds`: a ratio in the rounding interval of a magnitude is rounded to it.
* `Magnitude.ofUnits_eq_none_iff`: a ratio has no nearest magnitude exactly from half a step above
  the largest one on.
-/

namespace GridLayout

/-! ## Rounding to integers -/

section

variable {num den k : Nat}

/-- A ratio that is at most half a unit away from an integer is rounded to it, if it is not the odd
one of two. -/
theorem roundHalfEven_eq (hden : 0 < den) (hlow : 2 * (k * den) ≤ 2 * num + den)
    (hhigh : 2 * num ≤ 2 * (k * den) + den)
    (hodd : k % 2 = 1 → 2 * (k * den) ≠ 2 * num + den ∧ 2 * num ≠ 2 * (k * den) + den) :
    roundHalfEven num den = k := by
  have hsplit := Nat.div_add_mod num den
  have hrest := Nat.mod_lt num hden
  have hk : k = num / den ∨ k = num / den + 1 := by
    have hle : num / den ≤ k := by
      by_contra hlt
      have hmul := Nat.mul_le_mul_right den (Nat.succ_le_of_lt (Nat.lt_of_not_le hlt))
      rw [Nat.succ_mul, Nat.mul_comm (num / den)] at hmul
      omega
    have hge : k ≤ num / den + 1 := by
      by_contra hlt
      have hmul := Nat.mul_le_mul_right den (Nat.succ_le_of_lt (Nat.lt_of_not_le hlt))
      rw [Nat.succ_mul, Nat.succ_mul, Nat.mul_comm (num / den)] at hmul
      omega
    omega
  unfold roundHalfEven
  simp only
  rcases hk with hk | hk
  · rw [hk, Nat.mul_comm (num / den)] at hlow hhigh hodd
    split
    · exact hk.symm
    · split
      · omega
      · have heven : (num / den) % 2 = 0 := by omega
        omega
  · have hmul : (num / den + 1) * den = den * (num / den) + den := by ring
    rw [hk, hmul] at hlow hhigh hodd
    split
    · omega
    · split
      · exact hk.symm
      · have heven : (num / den) % 2 = 1 := by omega
        omega

/-- A ratio is rounded by at most half a unit, and to an even integer if by so much. -/
theorem roundHalfEven_spec (num : Nat) (hden : 0 < den) :
    2 * (roundHalfEven num den * den) ≤ 2 * num + den ∧
      2 * num ≤ 2 * (roundHalfEven num den * den) + den ∧
      (roundHalfEven num den % 2 = 1 → 2 * (roundHalfEven num den * den) ≠ 2 * num + den ∧
        2 * num ≠ 2 * (roundHalfEven num den * den) + den) := by
  have hsplit := Nat.div_add_mod num den
  have hrest := Nat.mod_lt num hden
  have hdown : num / den * den = den * (num / den) := Nat.mul_comm _ _
  have hup : (num / den + 1) * den = den * (num / den) + den := by ring
  unfold roundHalfEven
  simp only
  split
  · rw [hdown]
    omega
  · split
    · rw [hup]
      omega
    · have hparity : (num / den) % 2 = 0 ∨ (num / den) % 2 = 1 := by omega
      rcases hparity with heven | hodd
      · rw [heven, Nat.add_zero, hdown]
        omega
      · rw [hodd, hup]
        omega

theorem le_roundHalfEven (h : k * den ≤ num) (hden : 0 < den) : k ≤ roundHalfEven num den := by
  have hk : k ≤ num / den := (Nat.le_div_iff_mul_le hden).2 h
  unfold roundHalfEven
  simp only
  split
  · exact hk
  · split <;> omega

theorem roundHalfEven_le (h : num ≤ k * den) (hden : 0 < den) : roundHalfEven num den ≤ k := by
  have hsplit := Nat.div_add_mod num den
  have hrest := Nat.mod_lt num hden
  unfold roundHalfEven
  simp only
  rcases Nat.lt_or_ge (num / den) k with hlt | hge
  · split
    · exact hlt.le
    · split <;> omega
  · -- the quotient is not above `k` either, so the division leaves nothing
    have hmul := Nat.mul_le_mul_left den hge
    rw [Nat.mul_comm den k] at hmul
    have hzero : num % den = 0 := by omega
    have hk : num / den = k := Nat.le_antisymm (Nat.div_le_of_le_mul (by rwa [Nat.mul_comm])) hge
    rw [if_pos (by omega)]
    exact hk.le

end

namespace Magnitude

variable {num den : Nat}

/-! ## The exponent -/

/-- The exponent with which a ratio is rounded. -/
theorem log2_sub_eq (hden : 0 < den) {e : Nat}
    (hlow : e = 0 ∨ leadingBit * 2 ^ e * den ≤ num) (hhigh : num < 2 * leadingBit * 2 ^ e * den) :
    Nat.log2 (num / den) - 52 = e := by
  have hbit : leadingBit * 2 ^ e = 2 ^ (52 + e) := (Nat.pow_add 2 52 e).symm
  rw [hbit] at hlow
  rw [Nat.mul_assoc 2, hbit, ← Nat.pow_succ'] at hhigh
  have hlt : num / den < 2 ^ (52 + e + 1) := (Nat.div_lt_iff_lt_mul hden).2 hhigh
  rcases Nat.eq_zero_or_pos (num / den) with hzero | hpos
  · rcases hlow with rfl | hlow
    · simp [hzero]
    · have hle := (Nat.le_div_iff_mul_le hden).2 hlow
      have hpow := Nat.two_pow_pos (52 + e)
      omega
  · have hupper : Nat.log2 (num / den) < 52 + e + 1 := (Nat.log2_lt hpos.ne').2 hlt
    rcases hlow with rfl | hlow
    · omega
    · have hlower : 52 + e ≤ Nat.log2 (num / den) :=
        (Nat.le_log2 hpos.ne').2 ((Nat.le_div_iff_mul_le hden).2 hlow)
      omega

/-- Every ratio has such an exponent. -/
theorem log2_sub_spec (num : Nat) (hden : 0 < den) {e : Nat} (he : Nat.log2 (num / den) - 52 = e) :
    (e = 0 ∨ leadingBit * 2 ^ e * den ≤ num) ∧ num < 2 * leadingBit * 2 ^ e * den := by
  have hbit : leadingBit * 2 ^ e = 2 ^ (52 + e) := (Nat.pow_add 2 52 e).symm
  rw [Nat.mul_assoc 2, hbit, ← Nat.pow_succ', ← Nat.div_lt_iff_lt_mul hden,
    ← Nat.le_div_iff_mul_le hden]
  constructor
  · rcases Nat.eq_zero_or_pos e with hzero | hpos
    · exact .inl hzero
    · have hlog : Nat.log2 (num / den) = 52 + e := by omega
      have hne : num / den ≠ 0 := by
        intro hzero
        rw [hzero, Nat.log2_zero] at hlog
        omega
      exact .inr ((Nat.le_log2 hne).1 hlog.ge)
  · have hlt := Nat.lt_log2_self (n := num / den)
    have hpow : 2 ^ (Nat.log2 (num / den) + 1) ≤ 2 ^ (52 + e + 1) :=
      Nat.pow_le_pow_right (by decide) (by omega)
    omega

/-- The nearest magnitude by its exponent and its mantissa. -/
theorem ofUnits_eq {e k : Nat} (he : Nat.log2 (num / den) - 52 = e)
    (hk : roundHalfEven num (den * 2 ^ e) = k) :
    ofUnits num den =
      if h : Canonical k e then some ⟨k, e, h⟩
      else if h : Canonical (k / 2) (e + 1) then some ⟨k / 2, e + 1, h⟩ else none := by
  subst he hk
  rfl

/-! ## Rounding intervals -/

theorem quartersPerOne_mul (n : Nat) : n * quartersPerOne = 4 * (n * Binary64.unitsPerOne) := by
  unfold quartersPerOne
  ring

theorem upperQuarters_mul (m : Magnitude) (den : Nat) :
    m.upperQuarters * den = 4 * (m.units * den) + 2 * (2 ^ m.exponent * den) := by
  rw [upperQuarters, Nat.pow_eq]
  ring

theorem lowerQuarters_mul (m : Magnitude) (den : Nat) :
    m.lowerQuarters * den = 4 * (m.units * den) -
      (if m.mantissa = leadingBit ∧ 0 < m.exponent then 1 else 2) * (2 ^ m.exponent * den) := by
  rw [lowerQuarters, Nat.pow_eq, Nat.sub_mul, Nat.mul_assoc, Nat.mul_assoc]

theorem units_mul (m : Magnitude) (den : Nat) :
    m.units * den = m.mantissa * (2 ^ m.exponent * den) := Nat.mul_assoc _ _ _

/-- The rounding interval in quarter units: two quarters of a step to both sides, but only one
below a power of two. Its ends are left out if the mantissa is odd. -/
theorem Rounds.bounds {m : Magnitude} {n : Nat} (h : m.Rounds n den) :
    let step := 2 ^ m.exponent * den
    let num := n * Binary64.unitsPerOne
    4 * (m.mantissa * step) ≤
        4 * num + (if m.mantissa = leadingBit ∧ 0 < m.exponent then 1 else 2) * step ∧
      4 * num ≤ 4 * (m.mantissa * step) + 2 * step ∧
      (m.mantissa % 2 = 1 → 4 * (m.mantissa * step) ≠ 4 * num + 2 * step ∧
        4 * num ≠ 4 * (m.mantissa * step) + 2 * step) := by
  intro step num
  dsimp only [step, num]
  unfold Rounds at h
  rw [upperQuarters_mul, lowerQuarters_mul, units_mul, quartersPerOne_mul] at h
  have hbit : m.mantissa = leadingBit → m.mantissa % 2 = 0 := by
    intro hm
    rw [hm]
    rfl
  split at h
  · refine ⟨?_, h.2, ?_⟩ <;> omega
  · have hnot : ¬(m.mantissa = leadingBit ∧ 0 < m.exponent) := fun hm => by have := hbit hm.1; omega
    rw [if_neg hnot] at h ⊢
    refine ⟨?_, h.2.le, fun _ => ⟨?_, h.2.ne⟩⟩ <;> omega

theorem leadingBit_eq : leadingBit = 4503599627370496 := rfl

/-- A ratio with the exponent of a magnitude is rounded to it from half a step around. -/
theorem ofUnits_of_exponent {m : Magnitude} (hden : 0 < den)
    (hexp : m.exponent = 0 ∨ leadingBit * 2 ^ m.exponent * den ≤ num)
    (hlow : 2 * (m.mantissa * (2 ^ m.exponent * den)) ≤ 2 * num + 2 ^ m.exponent * den)
    (hhigh : 2 * num ≤ 2 * (m.mantissa * (2 ^ m.exponent * den)) + 2 ^ m.exponent * den)
    (hodd : m.mantissa % 2 = 1 →
      2 * (m.mantissa * (2 ^ m.exponent * den)) ≠ 2 * num + 2 ^ m.exponent * den ∧
        2 * num ≠ 2 * (m.mantissa * (2 ^ m.exponent * den)) + 2 ^ m.exponent * den) :
    ofUnits num den = some m := by
  have hstep : 0 < 2 ^ m.exponent * den := Nat.mul_pos (Nat.two_pow_pos _) hden
  have hbelow : num < 2 * leadingBit * 2 ^ m.exponent * den := by
    have hmul := Nat.mul_le_mul_right (2 ^ m.exponent * den) (Nat.succ_le_of_lt m.canonical.1)
    rw [Nat.succ_mul] at hmul
    rw [Nat.mul_assoc (2 * leadingBit)]
    omega
  have hround : roundHalfEven num (den * 2 ^ m.exponent) = m.mantissa := by
    rw [Nat.mul_comm den]
    exact roundHalfEven_eq hstep hlow hhigh hodd
  rw [ofUnits_eq (log2_sub_eq hden hexp hbelow) hround, dif_pos m.canonical]

/-- A ratio just below a power of two has the exponent before, and is rounded up to it from a
quarter of a step on. -/
theorem ofUnits_of_leadingBit {m : Magnitude} (hden : 0 < den) (hpos : 0 < m.exponent)
    (hm : m.mantissa = leadingBit) (hbelow : num < leadingBit * (2 ^ m.exponent * den))
    (hlow : 4 * (leadingBit * (2 ^ m.exponent * den)) ≤ 4 * num + 2 ^ m.exponent * den) :
    ofUnits num den = some m := by
  obtain ⟨mantissa, exponent, hcanonical⟩ := m
  obtain ⟨e, rfl⟩ : ∃ e, exponent = e + 1 := ⟨exponent - 1, by dsimp only at hpos; omega⟩
  dsimp only at hm hbelow hlow
  subst hm
  have hstep : 0 < 2 ^ e * den := Nat.mul_pos (Nat.two_pow_pos _) hden
  have hdouble : 2 ^ (e + 1) * den = 2 * (2 ^ e * den) := by ring
  rw [hdouble, leadingBit_eq] at hbelow hlow
  have hexp : Nat.log2 (num / den) - 52 = e := by
    apply log2_sub_eq hden
    · right
      rw [Nat.mul_assoc, leadingBit_eq]
      omega
    · rw [Nat.mul_assoc, leadingBit_eq]
      omega
  have hround : roundHalfEven num (den * 2 ^ e) = 2 * leadingBit := by
    rw [Nat.mul_comm den]
    apply roundHalfEven_eq hstep <;> rw [leadingBit_eq] <;> omega
  have hhalf : 2 * leadingBit / 2 = leadingBit := rfl
  rw [ofUnits_eq hexp hround, dif_neg (fun h => Nat.lt_irrefl _ h.1)]
  simp only [hhalf]
  rw [dif_pos hcanonical]

/-- A ratio in the rounding interval of a magnitude is rounded to it. -/
theorem ofUnits_of_rounds {m : Magnitude} {n : Nat} (hden : 0 < den) (h : m.Rounds n den) :
    ofUnits (n * Binary64.unitsPerOne) den = some m := by
  obtain ⟨hlow, hhigh, hodd⟩ := h.bounds
  generalize n * Binary64.unitsPerOne = num at *
  by_cases hexp : m.exponent = 0 ∨ leadingBit * 2 ^ m.exponent * den ≤ num
  · apply ofUnits_of_exponent hden hexp
    · split at hlow <;> omega
    · omega
    · intro hm
      have hne := hodd hm
      omega
  · obtain ⟨hpos, hbelow⟩ := not_or.1 hexp
    rw [Nat.mul_assoc, Nat.not_le] at hbelow
    have hm : m.mantissa = leadingBit := by
      -- a larger mantissa is at least a whole step above the ratio
      by_contra hne
      have hlt : leadingBit < m.mantissa :=
        lt_of_le_of_ne (m.canonical.2.2.resolve_left hpos) (Ne.symm hne)
      have hmul := Nat.mul_le_mul_right (2 ^ m.exponent * den) (Nat.succ_le_of_lt hlt)
      rw [Nat.succ_mul] at hmul
      rw [if_neg (fun h => hne h.1)] at hlow
      omega
    rw [if_pos ⟨hm, Nat.pos_of_ne_zero hpos⟩, hm, one_mul] at hlow
    exact ofUnits_of_leadingBit hden (Nat.pos_of_ne_zero hpos) hm hbelow hlow

/-! ## Overflow -/

/-- The units from which on a ratio exceeds every finite double: half a step above the largest
magnitude. -/
def overflowUnits : Nat := (4 * leadingBit - 1) * 2 ^ 2044

/-- A rounded ratio is too large if its exponent is, also after the mantissa has moved to the next
one. -/
theorem ofUnits_eq_none_iff_exponent {e k : Nat} (he : Nat.log2 (num / den) - 52 = e)
    (hk : roundHalfEven num (den * 2 ^ e) = k) (hnormal : e = 0 ∨ leadingBit ≤ k)
    (hle : k ≤ 2 * leadingBit) :
    ofUnits num den = none ↔ 2045 < e ∨ (e = 2045 ∧ k = 2 * leadingBit) := by
  rw [ofUnits_eq he hk]
  rcases hle.lt_or_eq with hlt | rfl
  · by_cases hexp : e ≤ 2045
    · rw [dif_pos ⟨hlt, hexp, hnormal⟩]
      simp only [reduceCtorEq, false_iff]
      omega
    · rw [dif_neg (fun h => hexp h.2.1), dif_neg (fun h => hexp (by have := h.2.1; omega))]
      simp only [true_iff]
      omega
  · rw [dif_neg (fun h => Nat.lt_irrefl _ h.1)]
    by_cases hexp : e + 1 ≤ 2045
    · rw [dif_pos ⟨by decide, hexp, .inr le_rfl⟩]
      simp only [reduceCtorEq, false_iff]
      omega
    · rw [dif_neg (fun h => hexp h.2.1)]
      simp only [true_iff, and_true]
      omega

/-- A ratio has no nearest magnitude exactly if it is not below the overflow. -/
theorem ofUnits_eq_none_iff (hden : 0 < den) :
    ofUnits num den = none ↔ overflowUnits * den ≤ num := by
  obtain ⟨e, he⟩ : ∃ e, Nat.log2 (num / den) - 52 = e := ⟨_, rfl⟩
  obtain ⟨k, hk⟩ : ∃ k, roundHalfEven num (den * 2 ^ e) = k := ⟨_, rfl⟩
  obtain ⟨hlow, hhigh⟩ := log2_sub_spec num hden he
  have hstep : 0 < den * 2 ^ e := Nat.mul_pos hden (Nat.two_pow_pos _)
  rw [Nat.mul_assoc, Nat.mul_comm (2 ^ e)] at hlow hhigh
  have hle : k ≤ 2 * leadingBit := hk ▸ roundHalfEven_le hhigh.le hstep
  have hnormal : e = 0 ∨ leadingBit ≤ k :=
    hlow.imp_right fun hlow => hk ▸ le_roundHalfEven hlow hstep
  rw [ofUnits_eq_none_iff_exponent he hk hnormal hle]
  have hswap (power : Nat) : (4 * leadingBit - 1) * power * den =
      (4 * leadingBit - 1) * (den * power) := by
    rw [Nat.mul_assoc, Nat.mul_comm power]
  have hdouble (n : Nat) : den * 2 ^ (n + 1) = 2 * (den * 2 ^ n) := by
    rw [Nat.pow_succ]
    ring
  have hlast : den * 2 ^ 2045 = 2 * (den * 2 ^ 2044) := by
    simpa only [Nat.reduceAdd] using hdouble 2044
  rw [overflowUnits, hswap, leadingBit_eq]
  rw [leadingBit_eq] at hlow hhigh
  rcases lt_trichotomy e 2045 with hexp | rfl | hexp
  · -- the whole binade lies below
    have hpow := Nat.mul_le_mul_left den
      (Nat.pow_le_pow_right (n := 2) (by decide) (Nat.le_of_lt_succ hexp))
    omega
  · -- the last binade: the ratio is rounded up to the next power of two from half a step on
    have hup : 2 * (roundHalfEven num (den * 2 ^ 2045) * (den * 2 ^ 2045)) ≤ _ :=
      (roundHalfEven_spec num hstep).1
    rw [hk] at hup
    constructor
    · rintro (hexp | ⟨-, rfl⟩)
      · exact absurd hexp (Nat.lt_irrefl _)
      · omega
    · intro hnum
      refine .inr ⟨rfl, hk.symm.trans (roundHalfEven_eq hstep ?_ ?_ ?_)⟩ <;> omega
  · -- the whole binade lies above
    have hpow := Nat.mul_le_mul_left den
      (Nat.pow_le_pow_right (n := 2) (by decide) (Nat.succ_le_of_lt hexp))
    have hbeyond : den * 2 ^ 2046 = 2 * (den * 2 ^ 2045) := by
      simpa only [Nat.reduceAdd] using hdouble 2045
    omega

end Magnitude

end GridLayout

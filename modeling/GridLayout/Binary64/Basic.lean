/-!
# Double-precision numbers

A double is a sign and a magnitude `mantissa · 2 ^ (exponent - 1074)`, an infinity, or not a
number. Every operation takes the exact rational result and rounds it once, to the nearest double
and on a tie to the one with an even mantissa; so each law about a result is a law about one
quotient of natural numbers.

* `Magnitude.ofUnits num den` is the magnitude nearest to `num / den` units of `2 ^ (-1074)`.
* `add`, `mul` and `div` are the exact operations followed by that rounding.
* `roundToPixel` is the floor of `x + 1/2`, kept within 32 bits.
-/

namespace GridLayout

/-! ## Rounding a quotient -/

/-- The integer nearest to `num / den`; a half goes to the even neighbour. -/
def roundHalfEven (num den : Nat) : Nat :=
  let q := num / den
  let r := num % den
  if 2 * r < den then q
  else if den < 2 * r then q + 1
  else q + q % 2

/-! ## Magnitudes -/

/-- The leading one of the 53 bits of a mantissa. -/
def Magnitude.leadingBit : Nat := Nat.pow 2 52

/-- The mantissa has at most 53 bits, and has all of them unless the exponent is the least one:
each magnitude is written in one way only. -/
def Magnitude.Canonical (mantissa exponent : Nat) : Prop :=
  mantissa < 2 * leadingBit ∧ exponent ≤ 2045 ∧ (exponent = 0 ∨ leadingBit ≤ mantissa)

instance (mantissa exponent : Nat) : Decidable (Magnitude.Canonical mantissa exponent) :=
  inferInstanceAs (Decidable (_ ∧ _ ∧ _))

/-- The magnitude `mantissa · 2 ^ (exponent - 1074)` of a finite double. -/
structure Magnitude where
  mantissa : Nat
  exponent : Nat
  canonical : Magnitude.Canonical mantissa exponent
deriving DecidableEq

namespace Magnitude

/-- The magnitude in units of `2 ^ (-1074)`, the least positive double. -/
def units (m : Magnitude) : Nat := m.mantissa * Nat.pow 2 m.exponent

def zero : Magnitude := ⟨0, 0, by decide⟩

/-- The magnitude nearest to `num / den` units, or nothing if that exceeds every finite double.
A mantissa rounded up to 54 bits moves to the next exponent. -/
def ofUnits (num den : Nat) : Option Magnitude :=
  let exponent := Nat.log2 (num / den) - 52
  let mantissa := roundHalfEven num (den * Nat.pow 2 exponent)
  if h : Canonical mantissa exponent then some ⟨mantissa, exponent, h⟩
  else if h : Canonical (mantissa / 2) (exponent + 1) then some ⟨mantissa / 2, exponent + 1, h⟩
  else none

/-- The place of the magnitude in the ascending order of all magnitudes. -/
def rank (m : Magnitude) : Nat := m.exponent * leadingBit + m.mantissa

end Magnitude

/-! ## Doubles -/

/-- A double-precision number. The two zeros differ in sign. -/
inductive Binary64 where
  | finite (negative : Bool) (magnitude : Magnitude)
  | infinite (negative : Bool)
  | nan
deriving DecidableEq

namespace Binary64

/-- The units of `2 ^ (-1074)` in the number one. -/
def unitsPerOne : Nat := Nat.pow 2 1074

/-- The double nearest to `± num / den` units. -/
def ofUnits (negative : Bool) (num den : Nat) : Binary64 :=
  match Magnitude.ofUnits num den with
  | some m => .finite negative m
  | none => .infinite negative

/-- The double nearest to `± num / den`. -/
def ofRatio (negative : Bool) (num den : Nat) : Binary64 :=
  ofUnits negative (num * unitsPerOne) den

def ofInt (n : Int) : Binary64 := ofRatio (n < 0) n.natAbs 1

def zero : Binary64 := .finite false .zero

instance : Inhabited Binary64 := ⟨zero⟩

def half : Binary64 := ofRatio false 1 2

/-- The exact value of a finite double, in units. -/
def signedUnits (negative : Bool) (m : Magnitude) : Int :=
  if negative then -(m.units : Int) else m.units

/-- The double nearest to the sum. An exact zero is negative only as the sum of two negative
zeros. -/
def add : Binary64 → Binary64 → Binary64
  | .finite s a, .finite t b =>
    let sum := signedUnits s a + signedUnits t b
    if sum = 0 then .finite (s && t) .zero else ofUnits (sum < 0) sum.natAbs 1
  | .nan, _ => .nan
  | _, .nan => .nan
  | .infinite s, .infinite t => if s = t then .infinite s else .nan
  | .infinite s, .finite _ _ => .infinite s
  | .finite _ _, .infinite t => .infinite t

/-- The double nearest to the product. -/
def mul : Binary64 → Binary64 → Binary64
  | .finite s a, .finite t b => ofUnits (s != t) (a.units * b.units) unitsPerOne
  | .nan, _ => .nan
  | _, .nan => .nan
  | .infinite s, .infinite t => .infinite (s != t)
  | .infinite s, .finite t b => if b.units = 0 then .nan else .infinite (s != t)
  | .finite s a, .infinite t => if a.units = 0 then .nan else .infinite (s != t)

/-- The double nearest to the quotient. -/
def div : Binary64 → Binary64 → Binary64
  | .finite s a, .finite t b =>
    if b.units = 0 then (if a.units = 0 then .nan else .infinite (s != t))
    else ofUnits (s != t) (a.units * unitsPerOne) b.units
  | .nan, _ => .nan
  | _, .nan => .nan
  | .infinite _, .infinite _ => .nan
  | .infinite s, .finite t _ => .infinite (s != t)
  | .finite s _, .infinite t => .finite (s != t) .zero

instance : Add Binary64 := ⟨add⟩
instance : Mul Binary64 := ⟨mul⟩
instance : Div Binary64 := ⟨div⟩

/-- Below zero; a zero of either sign and not-a-number are not. -/
def isNegative : Binary64 → Bool
  | .finite s m => s && m.units != 0
  | .infinite s => s
  | .nan => false

theorem isNegative_ofUnits (num den : Nat) : (ofUnits false num den).isNegative = false := by
  unfold ofUnits
  cases Magnitude.ofUnits num den <;> rfl

theorem isNegative_ofRatio (num den : Nat) : (ofRatio false num den).isNegative = false :=
  isNegative_ofUnits _ _

def signBit : Nat := Nat.pow 2 63

/-- The 64 bits of the interchange format; there is one not-a-number, the quiet one. -/
def bits : Binary64 → Nat
  | .finite s m => s.toNat * signBit + m.rank
  | .infinite s => s.toNat * signBit + 2047 * Magnitude.leadingBit
  | .nan => 2047 * Magnitude.leadingBit + Magnitude.leadingBit / 2

/-! ## Whole numbers -/

/-- The nearest number of the 32-bit range. -/
def clampInt32 (n : Int) : Int := max (-2147483648) (min n 2147483647)

/-- The floor, kept within 32 bits; not-a-number counts as zero. -/
def floorInt32 : Binary64 → Int
  | .finite s m => clampInt32 (signedUnits s m / unitsPerOne)
  | .infinite true => -2147483648
  | .infinite false => 2147483647
  | .nan => 0

/-- The nearest whole number, halves going up, kept within 32 bits. -/
def roundToPixel (x : Binary64) : Int := (x + half).floorInt32

end Binary64

end GridLayout

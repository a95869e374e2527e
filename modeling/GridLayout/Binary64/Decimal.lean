import GridLayout.Binary64.Basic

/-!
# Decimal numerals of doubles

Reading a numeral gives the nearest double. Writing one gives the fewest digits that read back:
among the decimals on the coarsest grid `10 ^ k · ℤ` that meets the double's rounding interval,
the nearest one, an exact tie going to the larger.

* `Decimal.toBinary64` reads, `Magnitude.shortest` writes.
* `Magnitude.Rounds m n d` says that `n / d` lies in the interval of reals that round to `m`.
-/

namespace GridLayout

/-- The decimal `digits / 10 ^ places`. -/
structure Decimal where
  digits : Nat
  places : Nat
deriving DecidableEq, Repr

namespace Decimal

/-- The double nearest to the decimal, with the given sign. -/
def toBinary64 (d : Decimal) (negative : Bool) : Binary64 :=
  Binary64.ofRatio negative d.digits (Nat.pow 10 d.places)

/-- The double nearest to `± digits · 10 ^ scale`. A scale far beyond the range of doubles, also
with all the digits, is not multiplied out. -/
def scientific (negative : Bool) (digits : Nat) (scale : Int) : Binary64 :=
  if digits = 0 then .finite negative .zero
  else if 400 < scale then .infinite negative
  else if scale < -400 - (Nat.log2 digits : Int) then .finite negative .zero
  else Binary64.ofRatio negative (digits * Nat.pow 10 scale.toNat) (Nat.pow 10 (-scale).toNat)

/-- Positional digits, with a point only if there are places after it. -/
def toChars (d : Decimal) : List Char :=
  let digits := Nat.toDigits 10 d.digits
  if d.places = 0 then digits
  else
    let padded := List.replicate (d.places + 1 - digits.length) '0' ++ digits
    padded.take (padded.length - d.places) ++ '.' :: padded.drop (padded.length - d.places)

end Decimal

namespace Magnitude

/-! ## The rounding interval -/

/-- The quarter units in the number one. -/
def quartersPerOne : Nat := 4 * Binary64.unitsPerOne

/-- The lower end of the rounding interval, in quarter units. Below a power of two the doubles
lie twice as close. -/
def lowerQuarters (m : Magnitude) : Nat :=
  4 * m.units -
    (if m.mantissa = leadingBit ∧ 0 < m.exponent then 1 else 2) * Nat.pow 2 m.exponent

/-- The upper end of the rounding interval, in quarter units. -/
def upperQuarters (m : Magnitude) : Nat := 4 * m.units + 2 * Nat.pow 2 m.exponent

/-- The ratio `num / den` lies in the rounding interval, whose ends belong to it if the mantissa
is even. -/
def Rounds (m : Magnitude) (num den : Nat) : Prop :=
  if m.mantissa % 2 = 0 then
    m.lowerQuarters * den ≤ num * quartersPerOne ∧ num * quartersPerOne ≤ m.upperQuarters * den
  else
    m.lowerQuarters * den < num * quartersPerOne ∧ num * quartersPerOne < m.upperQuarters * den

instance (m : Magnitude) (num den : Nat) : Decidable (m.Rounds num den) := by
  unfold Rounds; infer_instance

/-! ## The shortest numeral -/

/-- The point of the grid `10 ^ k · ℤ` nearest to the magnitude among its two neighbours there
that lie in the rounding interval. -/
def nearestOnGrid (m : Magnitude) (k : Int) : Option Decimal :=
  let num := Nat.pow 10 k.toNat
  let den := Nat.pow 10 (-k).toNat
  let below := m.units * den / (Binary64.unitsPerOne * num) * num
  let above := below + num
  let down : Bool := m.Rounds below den
  let up : Bool := m.Rounds above den
  -- twice the magnitude against the sum of the neighbours
  let closerBelow : Bool := 2 * m.units * den < (below + above) * Binary64.unitsPerOne
  if down && (!up || closerBelow) then some ⟨below, (-k).toNat⟩
  else if up then some ⟨above, (-k).toNat⟩
  else none

/-- The exponents of the grids to try, from one too coarse down to `10 ^ (-1074)`, on which every
double lies. -/
def gridExponents (m : Magnitude) : List Int :=
  let top := (Nat.toDigits 10 (m.units / Binary64.unitsPerOne)).length
  (List.range (top + 1075)).map fun i : Nat => (top : Int) - i

/-- The decimal with the fewest digits that reads back as the magnitude. -/
def shortest (m : Magnitude) : Decimal :=
  if m.units = 0 then ⟨0, 0⟩
  else (m.gridExponents.findSome? m.nearestOnGrid).getD ⟨m.units * Nat.pow 5 1074, 1074⟩

end Magnitude

/-- Positional text of a double, never with an exponent. -/
def Binary64.toChars : Binary64 → List Char
  | .finite s m => (if s then ['-'] else []) ++ m.shortest.toChars
  | .infinite s => if s then "-inf".toList else "inf".toList
  | .nan => "NaN".toList

def Binary64.toText (x : Binary64) : String := String.ofList x.toChars

end GridLayout

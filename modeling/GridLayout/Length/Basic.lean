import GridLayout.Binary64.Decimal
import GridLayout.Component

/-!
# Lengths

A length is a double with a unit. Along an axis it is worth a whole number of pixels: inches and
centimetres depend on the resolution, dialog units on the font size, of which one is the fourth
part across and the eighth part down.

* `Length.toPixels` is that number, the nearest one, halves going up.
* `Length.toText` is the canonical text; only a length in pixels may be written without a point.
-/

namespace GridLayout

/-! ## Units -/

inductive LengthUnit where
  | pixel
  | inch
  | centimetre
  | dialog
deriving DecidableEq, Repr

namespace LengthUnit

def all : List LengthUnit := [pixel, inch, centimetre, dialog]

def name : LengthUnit → String
  | pixel => "px"
  | inch => "in"
  | centimetre => "cm"
  | dialog => "dlu"

/-- The unit with exactly this name. -/
def ofName? (name : String) : Option LengthUnit := all.find? fun u => u.name == name

/-- Centimetres per inch. -/
def centimetresPerInch : Binary64 := (Decimal.mk 254 2).toBinary64 false

/-- Dialog units per font size. -/
def dialogUnits : Axis → Binary64
  | .horizontal => .ofInt 4
  | .vertical => .ofInt 8

/-- The pixels of `x` of the unit along an axis, each operation rounded. -/
def toPixels (unit : LengthUnit) (x : Binary64) (m : Metrics) (axis : Axis) : Int :=
  let pixels := match unit with
    | pixel => x
    | inch => x * Binary64.ofInt m.resolution
    | centimetre => x / centimetresPerInch * Binary64.ofInt m.resolution
    | dialog => x * m.fontSize axis / dialogUnits axis
  pixels.roundToPixel

end LengthUnit

/-! ## Lengths -/

/-- Lengths are equal if their units are and their values agree in every bit. -/
structure Length where
  value : Binary64
  unit : LengthUnit
deriving DecidableEq

namespace Length

def pixels (n : Int) : Length := ⟨.ofInt n, .pixel⟩

def zero : Length := ⟨.zero, .pixel⟩

instance : Inhabited Length := ⟨zero⟩

theorem isNegative_zero : zero.value.isNegative = false := rfl

def toPixels (l : Length) (m : Metrics) (axis : Axis) : Int := l.unit.toPixels l.value m axis

/-- The value as it stands before the unit. -/
def valueChars (l : Length) : List Char :=
  let text := l.value.toChars
  if l.unit = .pixel ∨ '.' ∈ text then text else text ++ ['.', '0']

/-- The canonical text. -/
def toText (l : Length) : String := String.ofList (l.valueChars ++ l.unit.name.toList)

end Length

end GridLayout

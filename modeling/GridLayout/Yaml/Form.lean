import GridLayout.Value.JsonReader

/-!
# What plain scalars stand for

Words for nothing and for the booleans, whole numbers in four bases, and floating-point numbers.
Several digits of which the first is a zero make no whole number, but one of the latter.

* `bool?`, `nat?`, `int?` and `float?` read a scalar as what is asked for.
-/

namespace GridLayout.Yaml.Form

/-! ## Words -/

def isNull (s : String) : Bool := ["null", "Null", "NULL", "~"].contains s

def bool? (s : String) : Option Bool :=
  if ["true", "True", "TRUE"].contains s then some true
  else if ["false", "False", "FALSE"].contains s then some false
  else none

/-! ## Whole numbers -/

/-- The number of one or more digits of a base up to sixteen. -/
def based? (base : Nat) (s : List Char) : Option Nat :=
  let digit? (a : Char) : Option Nat := (Json.hexDigit? a).filter (· < base)
  if s.isEmpty then none
  else (s.mapM digit?).map fun ds => ds.foldl (fun n d => n * base + d) 0

/-- The number of digits after a letter for their base. -/
def inBase? : List Char → Option Nat
  | '0' :: 'x' :: ds => based? 16 ds
  | '0' :: 'o' :: ds => based? 8 ds
  | '0' :: 'b' :: ds => based? 2 ds
  | _ => none

/-- The rest after a plus sign. -/
def dropPlus : List Char → List Char
  | '+' :: rest => rest
  | s => s

/-- The rest after any sign. -/
def dropSign : List Char → List Char
  | '+' :: rest | '-' :: rest => rest
  | s => s

/-- Several digits of which the first is a zero. -/
def isZeroPadded (s : List Char) : Bool :=
  let digits := dropSign s
  1 < digits.length && digits.head? == some '0' && digits.all Char.isDigit

/-- A whole number that is written without a minus sign. -/
def nat? (s : List Char) : Option Nat :=
  let digits := dropPlus s
  (inBase? digits).or (if isZeroPadded s then none else based? 10 digits)

/-- A whole number with a minus sign. -/
def negative? : List Char → Option Int
  | '-' :: digits =>
    ((inBase? digits).or (if isZeroPadded digits then none else based? 10 digits)).map
      fun n => -(n : Int)
  | _ => none

/-- A whole number. -/
def int? (s : List Char) : Option Int := ((nat? s).map fun n => (n : Int)).or (negative? s)

/-! ## Floating-point numbers -/

/-- A decimal numeral with or without a fraction and an exponent. -/
def numeral? (negative : Bool) (s : List Char) : Option Binary64 := do
  let mantissa := s.takeWhile fun a => !Text.isExponentMark a
  let whole := mantissa.takeWhile (· != '.')
  let fraction := (mantissa.dropWhile (· != '.')).drop 1
  let exponent ← match s.drop mantissa.length with
    | [] => some 0
    | _ :: ds => Text.int? ds
  let digits ← Text.digits? (whole ++ fraction)
  match Decimal.scientific negative digits (exponent - (fraction.length : Int)) with
  | .finite s m => return .finite s m
  | _ => none

def isInfinity (s : List Char) : Bool := [".inf", ".Inf", ".INF"].contains (String.ofList s)

def isNotANumber (s : List Char) : Bool := [".nan", ".NaN", ".NAN"].contains (String.ofList s)

/-- A floating-point number, finite unless it is a word for another one. -/
def float? (s : List Char) : Option Binary64 :=
  if isNotANumber s then some .nan
  else
    let negative := s.head? == some '-'
    let magnitude := dropSign s
    if isInfinity magnitude then some (.infinite negative) else numeral? negative magnitude

end GridLayout.Yaml.Form

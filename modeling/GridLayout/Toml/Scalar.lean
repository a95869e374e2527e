import GridLayout.Value.JsonReader

/-!
# Scalars of TOML that are not strings

Booleans, whole numbers of 64 bits, floating-point numbers, and moments, which are a date, a time
of day, or both. A numeral above all doubles is refused; one below them is negative infinity.

* `bare?` reads a whole word that is a boolean or a number, `moment?` the start of a text.
-/

namespace GridLayout.Toml

open Json (Reader)

/-! ## Numbers -/

/-- Digits without the underscores between them; there is a digit on both sides of each. -/
def digitRun? (isDigit : Char → Bool) : List Char → Option (List Char)
  | [] => none
  | [c] => if isDigit c then some [c] else none
  | c :: '_' :: rest =>
    if isDigit c then (digitRun? isDigit rest).map (c :: ·) else none
  | c :: rest => if isDigit c then (digitRun? isDigit rest).map (c :: ·) else none

/-- An unsigned number in another base than ten. -/
def based? (base : Nat) (s : List Char) : Option Int := do
  let isDigit (c : Char) : Bool := (Json.hexDigit? c).any fun n => n < base
  let ds ← digitRun? isDigit s
  return ds.foldl (fun n c => n * base + ((Json.hexDigit? c).getD 0 : Nat)) (0 : Int)

/-- Decimal digits of which the first is not a zero, unless it is the only one. -/
def decimal? (s : List Char) : Option (List Char) := do
  let ds ← digitRun? Char.isDigit s
  if ds.length > 1 ∧ ds.head? = some '0' then none else some ds

/-- The sign and the rest of a number. -/
def sign : List Char → Bool × List Char
  | '-' :: rest => (true, rest)
  | '+' :: rest => (false, rest)
  | s => (false, s)

/-- The number after the letter of an exponent. -/
def exponent? (s : List Char) : Option Int := do
  let (negative, rest) := sign s
  let n := Text.digitsValue (← digitRun? Char.isDigit rest)
  return if negative then -(n : Int) else n

/-- The number of a numeral with a fraction or an exponent, unless it is too large. -/
def numeral? (negative : Bool) (s : List Char) : Option Binary64 := do
  let mantissa := s.takeWhile fun c => !Text.isExponentMark c
  let whole ← decimal? (mantissa.takeWhile (· != '.'))
  let fraction ← match mantissa.dropWhile (· != '.') with
    | [] => some []
    | _ :: ds => digitRun? Char.isDigit ds
  let exponent ← match s.drop mantissa.length with
    | [] => some 0
    | _ :: ds => exponent? ds
  let scale : Int := exponent - (fraction.length : Int)
  let x := Decimal.scientific negative (Text.digitsValue (whole ++ fraction)) scale
  if (mantissa = s ∧ fraction = []) ∨ x = .infinite false then none else some x

/-- A number with a fraction or an exponent, or one of the words for what is no number. -/
def float? (s : List Char) : Option Binary64 :=
  let (negative, rest) := sign s
  if rest = ['i', 'n', 'f'] then some (.infinite negative)
  else if rest = ['n', 'a', 'n'] then some .nan
  else numeral? negative rest

/-- A whole number of 64 bits. -/
def integer? (s : List Char) : Option Int := do
  let n ← match s with
    | '0' :: 'x' :: ds => based? 16 ds
    | '0' :: 'o' :: ds => based? 8 ds
    | '0' :: 'b' :: ds => based? 2 ds
    | _ => do
      let (negative, rest) := sign s
      let n := Text.digitsValue (← decimal? rest)
      pure (if negative then -(n : Int) else n)
  if -9223372036854775808 ≤ n ∧ n ≤ 9223372036854775807 then some n else none

/-- A boolean or a number. -/
def bare? (s : List Char) : Option Value :=
  if s = ['t', 'r', 'u', 'e'] then some (.bool true)
  else if s = ['f', 'a', 'l', 's', 'e'] then some (.bool false)
  else ((integer? s).map Value.int).or ((float? s).map Value.float)

def isBareChar (c : Char) : Bool := c.isAlphanum || c == '_' || c == '-' || c == '+' || c == '.'

/-! ## Moments -/

/-- A number of exactly so many digits, between two bounds. -/
def fixedNumber (count low high : Nat) : Reader Nat := fun s =>
  let ds := s.take count
  let n := Text.digitsValue ds
  if ds.length = count ∧ ds.all Char.isDigit ∧ low ≤ n ∧ n ≤ high then some (n, s.drop count)
  else none

/-- The rest after a character. -/
def skip? (c : Char) : List Char → Option (List Char)
  | d :: rest => if d = c then some rest else none
  | [] => none

def isLeapYear (year : Nat) : Bool := year % 4 == 0 && (year % 100 != 0 || year % 400 == 0)

def daysIn (year month : Nat) : Nat :=
  if month = 2 then if isLeapYear year then 29 else 28
  else if month = 4 ∨ month = 6 ∨ month = 9 ∨ month = 11 then 30
  else 31

/-- The rest after a year, a month and a day. -/
def date? (s : List Char) : Option (List Char) := do
  let (year, rest) ← fixedNumber 4 0 9999 s
  let (month, rest) ← fixedNumber 2 1 12 (← skip? '-' rest)
  let (_, rest) ← fixedNumber 2 1 (daysIn year month) (← skip? '-' rest)
  return rest

/-- The rest after the fraction of a second, if there is one. -/
def skipFraction (s : List Char) : List Char :=
  match s with
  | '.' :: d :: rest => if d.isDigit then rest.dropWhile Char.isDigit else s
  | _ => s

/-- The rest after hours, minutes and seconds; a minute may have a leap second. -/
def timeOfDay? (s : List Char) : Option (List Char) := do
  let (_, rest) ← fixedNumber 2 0 23 s
  let (_, rest) ← fixedNumber 2 0 59 (← skip? ':' rest)
  let (_, rest) ← fixedNumber 2 0 60 (← skip? ':' rest)
  return skipFraction rest

/-- The rest after an offset from universal time, if there is one. -/
def offset? : List Char → Option (List Char)
  | 'Z' :: rest | 'z' :: rest => some rest
  | '+' :: rest | '-' :: rest => do
    let (_, rest) ← fixedNumber 2 0 23 rest
    let (_, rest) ← fixedNumber 2 0 59 (← skip? ':' rest)
    return rest
  | s => some s

/-- The rest after a time of day that follows a date. -/
def timeAfterDate? : List Char → Option (List Char)
  | 'T' :: rest | 't' :: rest | ' ' :: rest => do offset? (← timeOfDay? rest)
  | _ => none

/-- A moment, as its text. -/
def moment? : Reader String := fun s => do
  let rest ← ((date? s).map fun rest => (timeAfterDate? rest).getD rest).or (timeOfDay? s)
  return (String.ofList (s.take (s.length - rest.length)), rest)

end GridLayout.Toml

import GridLayout.Text.Basic
import GridLayout.Value.Basic

/-!
# Reading JSON

A recursive-descent reader of the JSON grammar. A number is an integer if it has neither a fraction
nor an exponent, except the negative zero. Of two fields of one name the last one counts.

* `Value.ofJson?` reads a whole text.
-/

namespace GridLayout.Json

/-- What is left of the text, after the value that was read. -/
abbrev Reader (α : Type) : Type := List Char → Option (α × List Char)

def isSpace (c : Char) : Bool := c == ' ' || c == '\t' || c == '\n' || c == '\r'

def skipSpace (s : List Char) : List Char := s.dropWhile isSpace

/-- Skip space, then take a character. -/
def expect (c : Char) (s : List Char) : Option (List Char) :=
  match skipSpace s with
  | d :: rest => if d = c then some rest else none
  | [] => none

/-! ## Strings -/

def hexDigit? (c : Char) : Option Nat :=
  if c.isDigit then some (c.toNat - '0'.toNat)
  else if 'a' ≤ c ∧ c ≤ 'f' then some (c.toNat - 'a'.toNat + 10)
  else if 'A' ≤ c ∧ c ≤ 'F' then some (c.toNat - 'A'.toNat + 10)
  else none

/-- Four hexadecimal digits. -/
def hexCode? : Reader Nat
  | a :: b :: c :: d :: rest => do
    let a ← hexDigit? a
    let b ← hexDigit? b
    let c ← hexDigit? c
    let d ← hexDigit? d
    return (((a * 16 + b) * 16 + c) * 16 + d, rest)
  | _ => none

/-- The character of a short escape. -/
def shortEscape? : Char → Option Char
  | '"' => some '"'
  | '\\' => some '\\'
  | '/' => some '/'
  | 'b' => some '\x08'
  | 'f' => some '\x0c'
  | 'n' => some '\n'
  | 'r' => some '\r'
  | 't' => some '\t'
  | _ => none

def isHighSurrogate (n : Nat) : Bool := 0xD800 ≤ n && n < 0xDC00

def isLowSurrogate (n : Nat) : Bool := 0xDC00 ≤ n && n < 0xE000

/-- The character after a backslash and `u`; a pair of surrogates makes one character. -/
def unicodeEscape? : Reader Char := fun s => do
  let (high, rest) ← hexCode? s
  if isLowSurrogate high then none
  else if isHighSurrogate high then
    match rest with
    | '\\' :: 'u' :: rest => do
      let (low, rest) ← hexCode? rest
      if isLowSurrogate low then
        return (Char.ofNat (0x10000 + (high - 0xD800) * 0x400 + (low - 0xDC00)), rest)
      else none
    | _ => none
  else return (Char.ofNat high, rest)

/-- The rest of a string up to its closing quote; `fuel` bounds the characters. -/
def stringTail : Nat → Reader (List Char)
  | 0, _ => none
  | _ + 1, [] => none
  | _ + 1, '"' :: rest => some ([], rest)
  | fuel + 1, '\\' :: 'u' :: rest => do
    let (c, rest) ← unicodeEscape? rest
    let (cs, rest) ← stringTail fuel rest
    return (c :: cs, rest)
  | fuel + 1, '\\' :: c :: rest => do
    let c ← shortEscape? c
    let (cs, rest) ← stringTail fuel rest
    return (c :: cs, rest)
  | fuel + 1, c :: rest => do
    if c = '\\' ∨ c.toNat < 0x20 then none
    let (cs, rest) ← stringTail fuel rest
    return (c :: cs, rest)

/-- The rest of a string after its opening quote. -/
def string : Reader String := fun s => do
  let (cs, rest) ← stringTail (s.length + 1) s
  return (String.ofList cs, rest)

/-! ## Numbers -/

/-- One or more digits. -/
def digits : Reader (List Char) := fun s =>
  let ds := s.takeWhile Char.isDigit
  if ds.isEmpty then none else some (ds, s.dropWhile Char.isDigit)

/-- The digits of a whole part, which starts with a zero only if it is zero. -/
def wholePart : Reader (List Char)
  | '0' :: rest => some (['0'], rest)
  | s => digits s

/-- The digits after a point, or none without one. -/
def fractionPart : Reader (List Char)
  | '.' :: rest => digits rest
  | s => some ([], s)

/-- The number after the letter of an exponent. -/
def exponentDigits : Reader Int
  | '-' :: rest => (digits rest).map fun (ds, rest) => (-(Text.digitsValue ds : Int), rest)
  | '+' :: rest => (digits rest).map fun (ds, rest) => ((Text.digitsValue ds : Int), rest)
  | s => (digits s).map fun (ds, rest) => ((Text.digitsValue ds : Int), rest)

def exponentPart : Reader (Option Int)
  | 'e' :: rest => (exponentDigits rest).map fun (n, rest) => (some n, rest)
  | 'E' :: rest => (exponentDigits rest).map fun (n, rest) => (some n, rest)
  | s => some (none, s)

/-- A number without its sign. -/
def unsigned (negative : Bool) : Reader Value := fun s => do
  let (whole, rest) ← wholePart s
  let (fraction, rest) ← fractionPart rest
  let (exponent, rest) ← exponentPart rest
  let n := Text.digitsValue (whole ++ fraction)
  if fraction.isEmpty && exponent.isNone && !(negative && n == 0) then
    return (.int (if negative then -(n : Int) else n), rest)
  else
    let scale := exponent.getD 0 - (fraction.length : Int)
    return (.float (Decimal.scientific negative n scale), rest)

def number : Reader Value
  | '-' :: rest => unsigned true rest
  | s => unsigned false s

/-! ## Values -/

/-- A word that stands for a value. -/
def word (letters : List Char) (v : Value) : Reader Value := fun s =>
  if letters.isPrefixOf s then some (v, s.drop letters.length) else none

mutual

/-- A value; `fuel` bounds the depth and the number of items. -/
def value : Nat → Reader Value
  | 0, _ => none
  | fuel + 1, s =>
    match skipSpace s with
    | '"' :: rest => (string rest).map fun (t, rest) => (.text t, rest)
    | '[' :: rest =>
      match expect ']' rest with
      | some rest => some (.list [], rest)
      | none => (items fuel rest).map fun (vs, rest) => (.list vs, rest)
    | '\x7b' :: rest =>
      match expect '\x7d' rest with
      | some rest => some (.object [], rest)
      | none => (fields fuel [] rest).map fun (fs, rest) => (.object fs, rest)
    | 't' :: rest => word ['r', 'u', 'e'] (.bool true) rest
    | 'f' :: rest => word ['a', 'l', 's', 'e'] (.bool false) rest
    | 'n' :: rest => word ['u', 'l', 'l'] .null rest
    | rest => number rest

/-- One or more values up to the closing bracket. -/
def items : Nat → Reader (List Value)
  | 0, _ => none
  | fuel + 1, s => do
    let (v, rest) ← value fuel s
    match expect ',' rest with
    | some rest => do
      let (vs, rest) ← items fuel rest
      return (v :: vs, rest)
    | none => do
      let rest ← expect ']' rest
      return ([v], rest)

/-- One or more fields up to the closing brace, after the given ones. -/
def fields : Nat → List (String × Value) → Reader (List (String × Value))
  | 0, _, _ => none
  | fuel + 1, before, s => do
    let rest ← expect '"' s
    let (name, rest) ← string rest
    let rest ← expect ':' rest
    let (v, rest) ← value fuel rest
    let all := Value.putField name v before
    match expect ',' rest with
    | some rest => fields fuel all rest
    | none => do
      let rest ← expect '\x7d' rest
      return (all, rest)

end

end GridLayout.Json

namespace GridLayout

/-- The value of a JSON text. -/
def Value.ofJson? (s : String) : Option Value :=
  let cs := s.toList
  match Json.value (2 * cs.length + 2) cs with
  | some (v, rest) => if (Json.skipSpace rest).isEmpty then some v else none
  | none => none

end GridLayout

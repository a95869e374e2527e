/-!
# Texts

Texts are lists of characters here. The blanks are the characters with the Unicode property
`White_Space`; only the letters of ASCII have a case, and only its digits make numerals. A bound on
the number is part of reading a numeral: one beyond it is none.

* `trim` is `trimStart` then `trimEnd`.
* `split` cuts at every separator and keeps empty fields: it has one field more than separators.
  `words` drops the empty ones, so runs of separators count as one.
* `joinWith` puts a separator between texts.
* `natOfBits?` and `intOfBits?` read whole numbers.
-/

namespace GridLayout.Text

/-! ## Blanks -/

/-- The character has the Unicode property `White_Space`. -/
def isBlank (c : Char) : Bool :=
  let n := c.toNat
  (0x9 ≤ n && n ≤ 0xD) || n == 0x20 || n == 0x85 || n == 0xA0 || n == 0x1680 ||
    (0x2000 ≤ n && n ≤ 0x200A) || n == 0x2028 || n == 0x2029 || n == 0x202F || n == 0x205F ||
    n == 0x3000

def trimStart (s : List Char) : List Char := s.dropWhile isBlank

def trimEnd (s : List Char) : List Char := (s.reverse.dropWhile isBlank).reverse

/-- The text without the blanks at its ends. -/
def trim (s : List Char) : List Char := trimEnd (trimStart s)

/-! ## Letter case -/

def lowercase (s : List Char) : List Char := s.map Char.toLower

def uppercase (s : List Char) : List Char := s.map Char.toUpper

/-! ## Fields -/

/-- The fields between the separators, empty ones too. -/
def split (isSeparator : Char → Bool) : List Char → List (List Char)
  | [] => [[]]
  | c :: rest =>
    if isSeparator c then [] :: split isSeparator rest
    else
      match split isSeparator rest with
      | [] => [[c]]
      | field :: fields => (c :: field) :: fields

/-- The fields between the separators that are not empty. -/
def words (isSeparator : Char → Bool) (s : List Char) : List (List Char) :=
  (split isSeparator s).filter fun field => !field.isEmpty

/-- The texts in order with the separator between neighbours. -/
def joinWith (separator : List Char) : List (List Char) → List Char
  | [] => []
  | [s] => s
  | s :: rest => s ++ separator ++ joinWith separator rest

theorem split_ne_nil (p : Char → Bool) (s : List Char) : split p s ≠ [] := by
  cases s with
  | nil => simp [split]
  | cons c rest =>
    simp only [split]
    split
    · simp
    · split <;> simp

/-! ## Numerals -/

/-- The number written by a list of ASCII digits. -/
def digitsValue (digits : List Char) : Nat :=
  digits.foldl (fun n c => 10 * n + (c.toNat - '0'.toNat)) 0

/-- The number written by one or more ASCII digits. -/
def digits? (s : List Char) : Option Nat :=
  if !s.isEmpty && s.all Char.isDigit then some (digitsValue s) else none

/-- A natural number of at most `bits` bits, with or without a plus sign. -/
def natOfBits? (bits : Nat) (s : List Char) : Option Nat :=
  let unsigned := match s with
    | '+' :: rest => rest
    | _ => s
  (digits? unsigned).filter fun n => n < Nat.pow 2 bits

/-- A whole number with or without a sign. -/
def int? : List Char → Option Int
  | '-' :: rest => (digits? rest).map fun n => -(n : Int)
  | '+' :: rest => (digits? rest).map fun n => (n : Int)
  | s => (digits? s).map fun n => (n : Int)

/-- A whole number in the two's complement range of `bits` bits. -/
def intOfBits? (bits : Nat) (s : List Char) : Option Int :=
  let bound : Int := Nat.pow 2 (bits - 1)
  (int? s).filter fun n => -bound ≤ n && n < bound

/-- The letter before the exponent of a numeral. -/
def isExponentMark (c : Char) : Bool := c == 'e' || c == 'E'

end GridLayout.Text

import GridLayout.Value.JsonReader

/-!
# Lines and strings in TOML

What may stand around the words of a line, and the four ways to write a string: between double
quotes with escapes, between single quotes without, and either of these over several lines.

* `endOfLine` takes what may stand at the end of a line, `string` a string.
-/

namespace GridLayout.Toml

open Json (Reader)

/-! ## Blanks, comments and line ends -/

def isBlank (c : Char) : Bool := c == ' ' || c == '\t'

def skipBlanks (s : List Char) : List Char := s.dropWhile isBlank

/-- A control character that no line may hold. -/
def isForbidden (c : Char) : Bool := (c.toNat < 0x20 && c != '\t') || c.toNat == 0x7F

/-- The rest after a comment, if there is one; it stands before the end of the line. -/
def skipComment : List Char → List Char
  | '#' :: rest => rest.dropWhile fun c => !isForbidden c
  | s => s

/-- The rest after the end of a line; the end of the text ends a line too. -/
def lineEnd : List Char → Option (List Char)
  | [] => some []
  | '\n' :: rest => some rest
  | '\r' :: '\n' :: rest => some rest
  | _ => none

/-- The rest after what may stand at the end of a line. -/
def endOfLine (s : List Char) : Option (List Char) := lineEnd (skipComment (skipBlanks s))

/-- The rest after blanks, comments and line ends, of which the start may be in a comment. -/
def skipLines (inComment : Bool) : List Char → List Char
  | [] => []
  | '\n' :: rest => skipLines false rest
  | '\r' :: '\n' :: rest => skipLines false rest
  | c :: rest =>
    if inComment && !isForbidden c then skipLines true rest
    else if !inComment && isBlank c then skipLines false rest
    else if !inComment && c == '#' then skipLines true rest
    else c :: rest

/-! ## Strings -/

/-- The number of `n` hexadecimal digits. -/
def hexNumber : Nat → Nat → Reader Nat
  | 0, acc, s => some (acc, s)
  | n + 1, acc, c :: rest => do hexNumber n (acc * 16 + (← Json.hexDigit? c)) rest
  | _ + 1, _, [] => none

/-- The character of a number, if it is one. -/
def charOf? (n : Nat) : Option Char := if n.isValidChar then some (Char.ofNat n) else none

/-- The character after a backslash. -/
def escape : Reader Char
  | 'u' :: rest => do
    let (n, rest) ← hexNumber 4 0 rest
    return (← charOf? n, rest)
  | 'U' :: rest => do
    let (n, rest) ← hexNumber 8 0 rest
    return (← charOf? n, rest)
  | c :: rest => if c = '/' then none else do return (← Json.shortEscape? c, rest)
  | [] => none

/-- The rest of a string between double quotes; `fuel` bounds the characters. -/
def basicTail : Nat → Reader (List Char)
  | 0, _ => none
  | _ + 1, [] => none
  | _ + 1, '"' :: rest => some ([], rest)
  | fuel + 1, '\\' :: rest => do
    let (c, rest) ← escape rest
    let (cs, rest) ← basicTail fuel rest
    return (c :: cs, rest)
  | fuel + 1, c :: rest => do
    if isForbidden c then none
    let (cs, rest) ← basicTail fuel rest
    return (c :: cs, rest)

/-- The rest of a string between single quotes, which has no escapes. -/
def literalTail (s : List Char) : Option (List Char × List Char) :=
  let body := s.takeWhile fun c => c != '\'' && !isForbidden c
  match s.drop body.length with
  | '\'' :: rest => some (body, rest)
  | _ => none

/-- A line end right after the opening quotes is not part of the string. -/
def dropFirstLineEnd : List Char → List Char
  | '\n' :: rest => rest
  | '\r' :: '\n' :: rest => rest
  | s => s

/-- The rest after blanks and line ends. -/
def skipBlankLines : List Char → List Char
  | [] => []
  | '\r' :: '\n' :: rest => skipBlankLines rest
  | c :: rest => if isBlank c ∨ c = '\n' then skipBlankLines rest else c :: rest

/-- The rest of a string of several lines up to three closing quotes; up to two more belong to the
string. A backslash at the end of a line joins it with the next text, and every line end counts as
a single character. -/
def longTail (quote : Char) (escapes : Bool) : Nat → Reader (List Char)
  | 0, _ => none
  | fuel + 1, s =>
    match s with
    | [] => none
    | a :: rest =>
      if a = quote ∧ (s.take 3).all (· == quote) ∧ 3 ≤ s.length then
        let quotes := (s.takeWhile (· == quote)).length
        if 5 < quotes then none
        else some (List.replicate (quotes - 3) quote, s.drop quotes)
      else if a = '\\' ∧ escapes then
        if (lineEnd (skipBlanks rest)).isSome then
          longTail quote escapes fuel (skipBlankLines rest)
        else do
          let (c, rest) ← escape rest
          let (cs, rest) ← longTail quote escapes fuel rest
          return (c :: cs, rest)
      else if a = '\r' ∧ rest.head? = some '\n' then longTail quote escapes fuel rest
      else if isForbidden a ∧ a ≠ '\n' then none
      else do
        let (cs, rest) ← longTail quote escapes fuel rest
        return (a :: cs, rest)

/-- A string of one line. -/
def shortString : Reader (List Char)
  | '"' :: rest => basicTail (rest.length + 1) rest
  | '\'' :: rest => literalTail rest
  | _ => none

def string : Reader (List Char)
  | '"' :: '"' :: '"' :: rest => longTail '"' true (rest.length + 1) (dropFirstLineEnd rest)
  | '\'' :: '\'' :: '\'' :: rest => longTail '\'' false (rest.length + 1) (dropFirstLineEnd rest)
  | s => shortString s

end GridLayout.Toml

import GridLayout.Value.JsonReader
import GridLayout.Yaml.Cursor

/-!
# Scalars in quotes and plain scalars

Such a scalar may go on over several lines. What is between two pieces of it is a `Gap`: the blanks
on one line count as they are; a single end of a line, with the blanks around it, counts as a
space, and of several ends all but the first count.

* `quoted` reads the rest of a scalar in quotes, `plain` a scalar without.
-/

namespace GridLayout.Yaml

/-! ## Gaps -/

/-- The blanks and line ends since the last other character. An escaped line end breaks the line
without being one of its ends. -/
structure Gap where
  blanks : List Char
  isBroken : Bool
  firstEnd : List Char
  furtherEnds : List Char
deriving DecidableEq, Repr

namespace Gap

/-- Nothing between two characters. -/
def nothing : Gap := ⟨[], false, [], []⟩

/-- The gap after an escaped line end. -/
def escaped : Gap := ⟨[], true, [], []⟩

/-- What the gap counts as. A separator of lines is never turned into a space. -/
def text (g : Gap) : List Char :=
  if g.isBroken then
    if g.firstEnd = ['\n'] then if g.furtherEnds.isEmpty then [' '] else g.furtherEnds
    else g.firstEnd ++ g.furtherEnds
  else g.blanks

/-- A gap with one more end of a line. -/
def addEnd (lineEnd : List Char) (g : Gap) : Gap :=
  if g.isBroken then { g with furtherEnds := g.furtherEnds ++ lineEnd }
  else ⟨[], true, lineEnd, []⟩

/-- The gap that goes on at the cursor. On a new line no tab stands before the least column. `fuel`
bounds the characters that are left, here and below. -/
def read (least : Nat) : Nat → Gap → Cursor → Option (Gap × Cursor)
  | 0, g, c => some (g, c)
  | fuel + 1, g, c =>
    match c.rest with
    | [] => some (g, c)
    | a :: _ =>
      if isBreak a then read least fuel (g.addEnd c.lineEnd) c.nextLine
      else if isBlank a then
        if g.isBroken then
          if a = '\t' ∧ c.column < least then none else read least fuel g c.next
        else read least fuel { g with blanks := g.blanks ++ [a] } c.next
      else some (g, c)

end Gap

/-! ## Scalars in quotes -/

/-- The number of `n` hexadecimal digits. -/
def hexNumber : Nat → Nat → List Char → Option Nat
  | 0, acc, _ => some acc
  | n + 1, acc, a :: rest => do hexNumber n (acc * 16 + (← Json.hexDigit? a)) rest
  | _ + 1, _, [] => none

/-- The characters that a letter after a backslash stands for by itself. -/
def escapedLetters : List (Char × Char) :=
  [('0', '\x00'), ('a', '\x07'), ('b', '\x08'), ('t', '\t'), ('\t', '\t'), ('n', '\n'),
    ('v', '\x0b'), ('f', '\x0c'), ('r', '\r'), ('e', '\x1b'), (' ', ' '), ('"', '"'), ('/', '/'),
    ('\\', '\\'), ('N', '\u0085'), ('_', '\u00A0'), ('L', '\u2028'), ('P', '\u2029')]

/-- How many hexadecimal digits follow a letter after a backslash. -/
def escapedDigits : Char → Option Nat
  | 'x' => some 2
  | 'u' => some 4
  | 'U' => some 8
  | _ => none

/-- The character after a backslash, and the length of what stands for it. -/
def escaped : List Char → Option (Char × Nat)
  | a :: rest =>
    match escapedDigits a with
    | some n => do
      let code ← hexNumber n 0 rest
      if code.isValidChar then some (Char.ofNat code, n + 1) else none
    | none => (escapedLetters.lookup a).map fun b => (b, 1)
  | [] => none

/-- The rest of a scalar up to its closing quote, in which escapes count or a quote is written
twice. No mark between documents stands inside. -/
def quoted (quote : Char) (escapes : Bool) : Nat → Cursor → Option (List Char × Cursor)
  | 0, _ => none
  | fuel + 1, c =>
    match c.rest with
    | [] => none
    | a :: rest =>
      let goOn (text : List Char) (c : Cursor) : Option (List Char × Cursor) :=
        (quoted quote escapes fuel c).map fun (cs, c) => (text ++ cs, c)
      if c.atDocumentMark then none
      else if a = quote then
        if !escapes && rest.head? == some quote then goOn [quote] (c.advance 2)
        else some ([], c.next)
      else if escapes && a == '\\' then
        if rest.head?.any isBreak then do
          let (g, c) ← Gap.read 0 fuel .escaped c.next.nextLine
          goOn g.text c
        else do
          let (b, n) ← escaped rest
          goOn [b] (c.advance (n + 1))
      else if isBlank a || isBreak a then do
        let (g, c) ← Gap.read 0 fuel .nothing c
        goOn g.text c
      else goOn [a] c.next

/-! ## Plain scalars -/

/-- A character that separates or brackets items. -/
def isFlowIndicator (a : Char) : Bool :=
  a == ',' || a == '[' || a == ']' || a == '\x7b' || a == '\x7d'

/-- A character with a meaning at the start of a token. -/
def isIndicator (a : Char) : Bool := isFlowIndicator a || "-?:#&*!|>'\"%@\x60".toList.contains a

/-- A plain scalar may start here. A dash, a question mark or a colon can be its first character if
none of them is a token here. -/
def startsPlain (inFlow : Bool) : List Char → Bool
  | [] => false
  | a :: rest =>
    !(isBlank a || isBreak a || isIndicator a) || (a == '-' && !rest.head?.any isBlank) ||
      (!inFlow && (a == '?' || a == ':') && !atBlank rest)

/-- Inside brackets, a colon that is neither part of the scalar nor a token. -/
def isStrayColon (inFlow : Bool) (a : Char) (rest : List Char) : Bool :=
  inFlow && a == ':' && rest.head?.any fun b => isFlowIndicator b || b == '?'

/-- The rest of a plain scalar after a gap, and whether it ended after the end of a line. It ends
before a comment, a colon that a blank follows, a mark between documents, and a line that starts
before the least column, inside brackets also before one of these or a comma. -/
def plain (inFlow : Bool) (least : Nat) : Nat → Gap → Cursor → Option (List Char × Bool × Cursor)
  | 0, _, _ => none
  | fuel + 1, g, c =>
    match c.rest with
    | [] => some ([], g.isBroken, c)
    | a :: rest =>
      if c.atDocumentMark || (a == '#' && g != .nothing) then some ([], g.isBroken, c)
      else if isBlank a || isBreak a then do
        let (g, c) ← Gap.read least fuel .nothing c
        if !inFlow && c.column < least then some ([], g.isBroken, c)
        else plain inFlow least fuel g c
      else if isStrayColon inFlow a rest then none
      else if (a == ':' && atBlank rest) || (inFlow && isFlowIndicator a) then
        some ([], g.isBroken, c)
      else do
        let (cs, isBroken, c) ← plain inFlow least fuel .nothing c.next
        return (g.text ++ a :: cs, isBroken, c)

end GridLayout.Yaml

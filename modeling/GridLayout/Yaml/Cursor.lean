/-!
# Places in a YAML text

A cursor knows the line and the column of its place, on which the structure of a text depends, and
how many characters are before it. Lines end in five ways; a carriage return with a line feed is
one end.

* `Cursor.next` goes past a character, `Cursor.nextLine` past the end of a line.
* `isAdmissible` says which characters a text may have.
-/

namespace GridLayout.Yaml

/-! ## Characters -/

/-- A printable character, a tab or the end of a line. -/
def isAdmissible (c : Char) : Bool :=
  let n := c.toNat
  n == 0x9 || n == 0xA || n == 0xD || (0x20 ≤ n && n ≤ 0x7E) || n == 0x85 ||
    (0xA0 ≤ n && n ≤ 0xFFFD) || 0x10000 ≤ n

def isBlank (c : Char) : Bool := c == ' ' || c == '\t'

/-- The character ends a line: line feed, carriage return, next line, and the separators of lines
and of paragraphs. -/
def isBreak (c : Char) : Bool :=
  c == '\n' || c == '\r' || c == '\u0085' || c == '\u2028' || c == '\u2029'

/-- Nothing comes next on the line. -/
def atLineEnd (s : List Char) : Bool := s.head?.all isBreak

/-- A blank comes next, or nothing on the line. -/
def atBlank (s : List Char) : Bool := s.head?.all fun c => isBlank c || isBreak c

/-! ## Cursors -/

/-- The rest of a text and the place where it starts. -/
structure Cursor where
  rest : List Char
  index : Nat
  line : Nat
  column : Nat
deriving DecidableEq, Repr

namespace Cursor

/-- The start of a text. A byte order mark there takes a column, but is not part of the text. -/
def start : List Char → Cursor
  | '\uFEFF' :: rest => ⟨rest, 1, 0, 1⟩
  | s => ⟨s, 0, 0, 0⟩

/-- Past so many characters of a line. -/
def advance (n : Nat) (c : Cursor) : Cursor :=
  { c with rest := c.rest.drop n, index := c.index + n, column := c.column + n }

/-- Past a character of a line. -/
def next (c : Cursor) : Cursor := c.advance 1

/-- Past the characters that come next with a property; the end of a line must not have it. -/
def skipWhile (p : Char → Bool) (c : Cursor) : Cursor := c.advance (c.rest.takeWhile p).length

/-- Past the end of the line, if the cursor is there. -/
def nextLine (c : Cursor) : Cursor :=
  match c.rest with
  | '\r' :: '\n' :: rest => ⟨rest, c.index + 2, c.line + 1, 0⟩
  | a :: rest => if isBreak a then ⟨rest, c.index + 1, c.line + 1, 0⟩ else c
  | [] => c

/-- The end of the line as part of a scalar: a line feed, unless it is a separator. -/
def lineEnd (c : Cursor) : List Char :=
  match c.rest with
  | a :: _ => if a = '\u2028' ∨ a = '\u2029' then [a] else if isBreak a then ['\n'] else []
  | [] => []

/-- Past the blanks and the comment that come next. -/
def skipComment (c : Cursor) : Cursor :=
  let c := c.skipWhile isBlank
  if c.rest.head? = some '#' then c.skipWhile fun a => !isBreak a else c

/-- Three of a character make up a word at the start of the line. -/
def atMark (mark : Char) (c : Cursor) : Bool :=
  c.column == 0 && c.rest.take 3 == [mark, mark, mark] && atBlank (c.rest.drop 3)

/-- The line is a mark between documents. -/
def atDocumentMark (c : Cursor) : Bool := c.atMark '-' || c.atMark '.'

end Cursor

end GridLayout.Yaml

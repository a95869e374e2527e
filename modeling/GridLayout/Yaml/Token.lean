import GridLayout.Value.JsonReader
import GridLayout.Yaml.Cursor

/-!
# Tokens of YAML

Besides the characters that stand for themselves there are tokens for the start and the end of a
block, which the columns of a text give. A key is announced before it, whether a question mark or
the colon after it shows that it is one.

* `anchorName?`, `tag?` and `directive?` read the tokens that are names.
-/

namespace GridLayout.Yaml

/-- How a scalar is written, as far as its meaning depends on it. -/
inductive Style where
  | plain
  | literal
  | other
deriving DecidableEq, Repr

inductive Token where
  | version (major minor : Nat)
  | tagHandle (handle prefixed : String)
  | documentStart
  | documentEnd
  | sequenceStart
  | mappingStart
  | blockEnd
  | openBracket
  | closeBracket
  | openBrace
  | closeBrace
  | comma
  | dash
  | key
  | value
  | reference (name : String)
  | anchor (name : String)
  | tag (handle suffix : String)
  | scalar (style : Style) (text : String)
deriving DecidableEq, Repr

/-! ## Names -/

/-- A character of a name. -/
def isNameChar (a : Char) : Bool := a.isAlphanum || a == '_' || a == '-'

/-- The name of an anchor, which must end where a token may. -/
def anchorName? (c : Cursor) : Option (String × Cursor) :=
  let name := c.rest.takeWhile isNameChar
  let after := c.advance name.length
  let ends := atBlank after.rest || after.rest.head?.any fun a => "?:,]\x7d%@\x60".toList.contains a
  if name.isEmpty || !ends then none else some (String.ofList name, after)

/-! ## Tags -/

/-- A character of a tag that stands for itself; a comma or a square bracket does so only between
the brackets of a complete tag. -/
def isTagChar (complete : Bool) (a : Char) : Bool :=
  isNameChar a || ";/?:@&=+$.!~*'()".toList.contains a ||
    (complete && (a == ',' || a == '[' || a == ']'))

/-- The number of two hexadecimal digits after a percent sign. -/
def octet? : List Char → Option (Nat × List Char)
  | '%' :: a :: b :: rest => do return ((← Json.hexDigit? a) * 16 + (← Json.hexDigit? b), rest)
  | _ => none

/-- The rest after so many octets, none of which can be the first one of a character. -/
def skipOctets : Nat → List Char → Option (List Char)
  | 0, s => some s
  | n + 1, s => do
    let (octet, rest) ← octet? s
    if octet / 64 = 2 then skipOctets n rest else none

/-- A character that is given by its octets. Outside of ASCII all count as the same, since no tag
with a meaning has one. -/
def octets? (s : List Char) : Option (Char × List Char) := do
  let (octet, rest) ← octet? s
  if octet < 0x80 then return (Char.ofNat octet, rest)
  else if octet / 32 = 6 then return ('\uFFFD', ← skipOctets 1 rest)
  else if octet / 16 = 14 then return ('\uFFFD', ← skipOctets 2 rest)
  else if octet / 8 = 30 then return ('\uFFFD', ← skipOctets 3 rest)
  else none

/-- The characters of a tag that come next; `fuel` bounds them, here and below. -/
def tagChars (complete : Bool) : Nat → List Char → Option (List Char × List Char)
  | 0, _ => none
  | fuel + 1, s =>
    match s with
    | [] => some ([], [])
    | a :: rest =>
      if a = '%' then do
        let (b, rest) ← octets? s
        let (cs, rest) ← tagChars complete fuel rest
        return (b :: cs, rest)
      else if isTagChar complete a then do
        let (cs, rest) ← tagChars complete fuel rest
        return (a :: cs, rest)
      else some ([], s)

/-- The characters of a tag at the cursor. -/
def tagText (fuel : Nat) (complete : Bool) (c : Cursor) : Option (List Char × Cursor) :=
  (tagChars complete fuel c.rest).map fun (cs, rest) =>
    (cs, c.advance (c.rest.length - rest.length))

/-- A handle is an exclamation mark, or a name between two. If the second one is missing, the name
is the start of a tag. -/
def handle (c : Cursor) : List Char × Cursor :=
  let name := (c.rest.drop 1).takeWhile isNameChar
  let after := c.advance (name.length + 1)
  match after.rest with
  | '!' :: _ => ('!' :: name ++ ['!'], after.next)
  | _ => ('!' :: name, after)

/-- The text is a handle that ends with a mark of its own. -/
def isClosedHandle (s : List Char) : Bool := 1 < s.length && s.getLast? == some '!'

/-- A tag without the check of what follows it. A mark alone is a tag of its own. -/
def openTag? (fuel : Nat) (c : Cursor) : Option (Token × Cursor) :=
  match c.rest with
  | '!' :: '<' :: _ => do
    let (text, c) ← tagText fuel true (c.advance 2)
    if text.isEmpty || c.rest.head? != some '>' then none
    else some (.tag "" (String.ofList text), c.next)
  | _ => do
    let (start, c) := handle c
    let (text, c) ← tagText fuel false c
    if isClosedHandle start then
      if text.isEmpty then none else some (.tag (String.ofList start) (String.ofList text), c)
    else
      match start.drop 1 ++ text with
      | [] => some (.tag "" "!", c)
      | text => some (.tag "!" (String.ofList text), c)

/-- A tag, after which a blank follows, or a comma inside brackets. -/
def tag? (fuel : Nat) (inFlow : Bool) (c : Cursor) : Option (Token × Cursor) :=
  (openTag? fuel c).filter fun (_, c) => atBlank c.rest || (inFlow && c.rest.head? == some ',')

/-! ## Directives -/

/-- A number of at most nine digits. -/
def versionNumber? (c : Cursor) : Option (Nat × Cursor) := do
  let digits := c.rest.takeWhile Char.isDigit
  if 9 < digits.length then none
  return (← Text.digits? digits, c.advance digits.length)

def version? (c : Cursor) : Option (Token × Cursor) := do
  let (major, c) ← versionNumber? (c.skipWhile isBlank)
  if c.rest.head? ≠ some '.' then none
  let (minor, c) ← versionNumber? c.next
  return (.version major minor, c)

/-- A handle and what it stands for. -/
def tagHandle? (fuel : Nat) (c : Cursor) : Option (Token × Cursor) := do
  let c := c.skipWhile isBlank
  if c.rest.head? ≠ some '!' then none
  let (start, c) := handle c
  if !(isClosedHandle start || start == ['!']) || !c.rest.head?.any isBlank then none
  let (text, c) ← tagText fuel true (c.skipWhile isBlank)
  if text.isEmpty || !atBlank c.rest then none
  return (.tagHandle (String.ofList start) (String.ofList text), c)

/-- The line after a percent sign. -/
def directive? (fuel : Nat) (c : Cursor) : Option (Token × Cursor) := do
  let name := c.rest.takeWhile isNameChar
  let c := c.advance name.length
  if !atBlank c.rest then none
  let (token, c) ←
    if name = ['Y', 'A', 'M', 'L'] then version? c
    else if name = ['T', 'A', 'G'] then tagHandle? fuel c
    else none
  let c := c.skipComment
  if atLineEnd c.rest then return (token, c.nextLine) else none

end GridLayout.Yaml

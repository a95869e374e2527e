import GridLayout.Yaml.Block
import GridLayout.Yaml.Inline
import GridLayout.Yaml.Token

/-!
# The tokens of a text

Blocks open where a key or a dash stands further to the right than the block around it, and close
where the text goes on to the left of them. A token is known to be a key only when the colon after
it is reached, which must be on the same line and not too far away: then the token that announces
the key is put before it, and with it the start of a mapping, if that is the first key of one.

* `Token.ofText?` gives the tokens of a text. `Progress.step` finds those of the next token.
-/

namespace GridLayout.Yaml

/-- A token that becomes a key if a colon follows. -/
structure PendingKey where
  /-- The number of tokens before it. -/
  position : Nat
  /-- Nothing but a key can stand in its place. -/
  isRequired : Bool
  index : Nat
  line : Nat
  column : Nat
deriving DecidableEq, Repr

/-- The tokens that have been found so far. -/
structure Progress where
  cursor : Cursor
  /-- The tokens, the latest one first. -/
  tokens : List Token
  /-- How many tokens there are. -/
  count : Nat
  /-- The columns of the blocks that are open, the innermost one first. -/
  columns : List Nat
  /-- The latest token that may become a key, outside the brackets that are open inside it. -/
  pending : Option PendingKey
  /-- For each open bracket, the token that may become a key and is outside of it. -/
  outer : List (Option PendingKey)
  /-- A key may start here. -/
  keyMayStart : Bool
deriving DecidableEq, Repr

namespace Progress

def start (s : List Char) : Progress := ⟨.start s, [], 0, [], none, [], true⟩

/-- A bracket is open. -/
def inFlow (p : Progress) : Bool := !p.outer.isEmpty

def push (t : Token) (p : Progress) : Progress :=
  { p with tokens := t :: p.tokens, count := p.count + 1 }

/-- A token after which a key may or may not start, and where it ends. -/
def found (t : Token) (after : Cursor) (keyMayStart : Bool) (p : Progress) : Progress :=
  { p.push t with cursor := after, keyMayStart }

/-! ## Keys -/

/-- The greatest distance between the start of a key and its colon. -/
def keyLengthLimit : Nat := 1024

/-- The token can no longer become a key. -/
def isStale (c : Cursor) (k : PendingKey) : Bool :=
  k.line < c.line || k.index + keyLengthLimit < c.index

/-- Forget the token if it can no longer become a key, which it must if that is required. -/
def dropStale (c : Cursor) : Option PendingKey → Option (Option PendingKey)
  | some k => if isStale c k then if k.isRequired then none else some none else some (some k)
  | none => some none

/-- Forget all tokens that can no longer become keys. -/
def dropStaleKeys (p : Progress) : Option Progress := do
  return { p with
    pending := ← dropStale p.cursor p.pending
    outer := ← p.outer.mapM (dropStale p.cursor) }

/-- Forget the latest token that may become a key. -/
def dropPending (p : Progress) : Option Progress :=
  if p.pending.any PendingKey.isRequired then none else some { p with pending := none }

/-- Remember the token at the cursor if it may become a key. -/
def savePending (p : Progress) : Option Progress :=
  if p.keyMayStart then do
    let p ← p.dropPending
    let isRequired := !p.inFlow && p.columns.head? == some p.cursor.column
    return { p with
      pending := some ⟨p.count, isRequired, p.cursor.index, p.cursor.line, p.cursor.column⟩ }
  else some p

/-! ## Blocks -/

/-- Close so many blocks, unless a bracket is open. -/
def close (n : Nat) (p : Progress) : Progress :=
  if p.inFlow then p
  else
    { p with
      columns := p.columns.drop n
      tokens := List.replicate n .blockEnd ++ p.tokens
      count := p.count + n }

/-- Close the blocks to the right of a column. -/
def closeBlocks (column : Nat) (p : Progress) : Progress :=
  p.close (p.columns.takeWhile (column < ·)).length

/-- Close all blocks, at the end of a document. -/
def closeAllBlocks (p : Progress) : Progress := p.close p.columns.length

/-- A block opens at a column. -/
def opensBlock (column : Nat) (p : Progress) : Bool :=
  !p.inFlow && p.columns.head?.all (· < column)

/-- Open a block at a column, if one opens there. -/
def openBlock (column : Nat) (t : Token) (p : Progress) : Progress :=
  if p.opensBlock column then { p.push t with columns := column :: p.columns } else p

/-- The pending token is a key. -/
def announceKey (k : PendingKey) (p : Progress) : Progress :=
  let after := p.count - k.position
  let opens := p.opensBlock k.column
  let announced := .key :: if opens then [.mappingStart] else []
  { p with
    tokens := p.tokens.take after ++ announced ++ p.tokens.drop after
    count := p.count + announced.length
    columns := if opens then k.column :: p.columns else p.columns
    pending := none }

/-! ## Single tokens -/

/-- A directive, or a mark between documents. -/
def atDocument (read : Cursor → Option (Token × Cursor)) (p : Progress) : Option Progress := do
  let p ← p.closeAllBlocks.dropPending
  let (t, after) ← read p.cursor
  return p.found t after false

/-- An opening bracket or brace. -/
def opening (t : Token) (p : Progress) : Option Progress := do
  let p ← p.savePending
  return { p.found t p.cursor.next true with pending := none, outer := p.pending :: p.outer }

/-- A closing bracket or brace. -/
def closing (t : Token) (p : Progress) : Option Progress := do
  let p ← p.dropPending
  let (pending, outer) := match p.outer with
    | k :: outer => (k, outer)
    | [] => (none, [])
  return { p.found t p.cursor.next false with pending, outer }

/-- A comma. -/
def comma (p : Progress) : Option Progress := do
  let p ← p.dropPending
  return p.found .comma p.cursor.next true

/-- A dash before an item, or a question mark before a key. In a block it stands only where a key
may start. -/
def entry (opened t : Token) (keyMayFollow : Bool) (p : Progress) : Option Progress := do
  if !p.inFlow && !p.keyMayStart then none
  let p ← (p.openBlock p.cursor.column opened).dropPending
  return p.found t p.cursor.next keyMayFollow

/-- A colon, after a pending key or after an announced one. -/
def value (p : Progress) : Option Progress :=
  match p.pending with
  | some k => some ((p.announceKey k).found .value p.cursor.next false)
  | none =>
    if !p.inFlow && !p.keyMayStart then none
    else some ((p.openBlock p.cursor.column .mappingStart).found .value p.cursor.next !p.inFlow)

/-- A token that may become a key. -/
def keyLike (read : Cursor → Option (Token × Cursor)) (p : Progress) : Option Progress := do
  let p ← p.savePending
  let (t, after) ← read p.cursor
  return p.found t after false

/-- A scalar of whole lines. -/
def blockScalar (fuel : Nat) (literal : Bool) (p : Progress) : Option Progress := do
  let p ← p.dropPending
  let (cs, after) ← Block.scalar fuel literal p.columns.head? p.cursor.next
  return p.found (.scalar (if literal then .literal else .other) (String.ofList cs)) after true

/-- A plain scalar. After the end of a line a key may start, as at the start of every line. -/
def plainScalar (fuel : Nat) (p : Progress) : Option Progress := do
  let p ← p.savePending
  let least := (p.columns.head?.map (· + 1)).getD 0
  let (cs, isBroken, after) ← plain p.inFlow least fuel .nothing p.cursor
  return p.found (.scalar .plain (String.ofList cs)) after isBroken

/-- A scalar in quotes. -/
def quotedScalar (fuel : Nat) (quote : Char) (escapes : Bool) : Progress → Option Progress :=
  keyLike fun c => (quoted quote escapes fuel c.next).map fun (cs, after) =>
    (.scalar .other (String.ofList cs), after)

/-! ## All tokens -/

/-- Past blanks, comments and line ends. A tab is a blank except where a key may start in a block.
`fuel` bounds the characters that are left, here and below. -/
def skipSpace : Nat → Progress → Progress
  | 0, p => p
  | fuel + 1, p =>
    let isSpace (a : Char) : Bool := a == ' ' || (a == '\t' && (p.inFlow || !p.keyMayStart))
    let c := p.cursor.skipWhile isSpace
    let c := if c.rest.head? = some '#' then c.skipWhile fun a => !isBreak a else c
    if c.rest.head?.any isBreak then
      skipSpace fuel { p with cursor := c.nextLine, keyMayStart := !p.inFlow || p.keyMayStart }
    else { p with cursor := c }

/-- The progress with the token at the cursor, which is at the start of one. -/
def step (fuel : Nat) (p : Progress) : Option Progress :=
  let c := p.cursor
  match c.rest with
  | [] => none
  | a :: rest =>
    if c.column == 0 && a == '%' then p.atDocument fun c => directive? fuel c.next
    else if c.atMark '-' then p.atDocument fun c => some (.documentStart, c.advance 3)
    else if c.atMark '.' then p.atDocument fun c => some (.documentEnd, c.advance 3)
    else if a = '[' then p.opening .openBracket
    else if a = '\x7b' then p.opening .openBrace
    else if a = ']' then p.closing .closeBracket
    else if a = '\x7d' then p.closing .closeBrace
    else if a = ',' then p.comma
    else if a == '-' && atBlank rest then p.entry .sequenceStart .dash true
    else if a == '?' && (p.inFlow || atBlank rest) then p.entry .mappingStart .key !p.inFlow
    else if a == ':' && (p.inFlow || atBlank rest) then p.value
    else if a = '*' then p.keyLike fun c =>
      (anchorName? c.next).map fun (name, after) => (.reference name, after)
    else if a = '&' then p.keyLike fun c =>
      (anchorName? c.next).map fun (name, after) => (.anchor name, after)
    else if a = '!' then p.keyLike (tag? fuel p.inFlow)
    else if a == '|' && !p.inFlow then p.blockScalar fuel true
    else if a == '>' && !p.inFlow then p.blockScalar fuel false
    else if a = '\'' then p.quotedScalar fuel '\'' false
    else if a = '"' then p.quotedScalar fuel '"' true
    else if startsPlain p.inFlow c.rest then p.plainScalar fuel
    else none

/-- The end of the text. -/
def finish (p : Progress) : Option (List Token) :=
  p.closeAllBlocks.dropPending.map fun p => p.tokens.reverse

/-- The tokens of the whole text; `fuel` bounds the characters that are left. -/
def run : Nat → Progress → Option (List Token)
  | 0, _ => none
  | fuel + 1, p => do
    let p ← (p.skipSpace fuel).dropStaleKeys
    let p := p.closeBlocks p.cursor.column
    if p.cursor.rest.isEmpty then p.finish else run fuel (← p.step (fuel + 1))

end Progress

/-- The tokens of a text. -/
def Token.ofText? (s : String) : Option (List Token) :=
  let cs := s.toList
  if cs.all isAdmissible then (Progress.start cs).run (cs.length + 1) else none

end GridLayout.Yaml

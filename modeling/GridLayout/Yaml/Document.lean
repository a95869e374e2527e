import GridLayout.Yaml.Node
import GridLayout.Yaml.Tokens

/-!
# Reading YAML

The nodes of a text are found in its tokens by recursive descent. Where a key, a value or an item
is announced but not written there is an empty node. A text is a single document, with or without
marks at its ends.

* `Document.ofText?` reads a whole text.
-/

namespace GridLayout.Yaml

/-! ## Reading tokens -/

/-- The tokens that are left, and the anchors so far with their numbers, the latest one first. -/
structure Reading where
  tokens : List Token
  anchors : List (String × Nat)

abbrev Read : Type → Type := StateT Reading Option

namespace Read

/-- The next token, which is not taken. -/
def peek : Read (Option Token) := return (← get).tokens.head?

/-- Take the next token. -/
def skip : Read Unit := modify fun r => { r with tokens := r.tokens.tail }

/-- Take the next token, which must be this one. -/
def expect (t : Token) : Read Unit := do
  if (← peek) = some t then skip else failure

/-- Take the next token if it is this one. -/
def accept (t : Token) : Read Bool := do
  if (← peek) = some t then
    skip
    return true
  else return false

/-- The next token is one of these. -/
def isNext (ts : List Token) : Read Bool := return (← peek).any ts.contains

/-- The number of an anchor that is used. -/
def number (name : String) : Read Nat := do
  match (← get).anchors.lookup name with
  | some n => return n
  | none => failure

/-- Number an anchor by the count of the names before it. A name that is used again counts once. -/
def define (name : String) : Read Nat := do
  let r ← get
  let number := r.anchors.length
  set { r with anchors := (name, number) :: r.anchors.filter fun (other, _) => other != name }
  return number

end Read

/-! ## Tags and anchors -/

/-- What handles of tags stand for, beside those that a document declares. -/
def defaultHandles : List (String × String) := [("!", "!"), ("!!", "tag:yaml.org,2002:")]

/-- The tag of a handle and a suffix. A complete tag has no handle. -/
def completeTag? (handles : List (String × String)) (handle suffix : String) : Option String :=
  if handle = "" then some suffix
  else (handles.lookup handle).map fun start => start ++ suffix

/-- What may stand before a node. -/
structure Properties where
  anchor : Option String
  tag : Option String

namespace Read

def anchor? : Read (Option String) := do
  match ← peek with
  | some (.anchor name) =>
    skip
    return some name
  | _ => return none

def tag? (handles : List (String × String)) : Read (Option String) := do
  match ← peek with
  | some (.tag handle suffix) =>
    skip
    match completeTag? handles handle suffix with
    | some tag => return some tag
    | none => failure
  | _ => return none

/-- An anchor and a tag in any order; each may be missing. -/
def properties (handles : List (String × String)) : Read Properties := do
  match ← anchor? with
  | some name => return ⟨some name, ← tag? handles⟩
  | none =>
    let tag ← tag? handles
    return ⟨← if tag.isSome then anchor? else pure none, tag⟩

/-- The number of the anchor, if there is one. -/
def numbered (p : Properties) : Read (Option Nat) :=
  match p.anchor with
  | some name => return some (← define name)
  | none => return none

/-! ## Nodes -/

/-- An empty node with an anchor or a tag; one of them must be there. -/
def emptyNode (p : Properties) : Read Node := do
  if p.anchor.isNone ∧ p.tag.isNone then failure
  return .scalar (← numbered p) ⟨.plain, p.tag, ""⟩

mutual

/-- A node. A block stands only inside a block; `afterKey` says that the dashes of a sequence may be
as far to the left as the key before it. `fuel` bounds the depth and the number of items. -/
def node (handles : List (String × String)) : Nat → Bool → Bool → Read Node
  | 0, _, _ => failure
  | fuel + 1, inBlock, afterKey => do
    match ← peek with
    | some (.reference name) =>
      skip
      return .reference (← number name)
    | _ =>
      let p ← properties handles
      match ← peek with
      | some (.scalar style text) =>
        skip
        return .scalar (← numbered p) ⟨style, p.tag.filter (· != "!"), text⟩
      | some .openBracket =>
        skip
        return .sequence (← numbered p) p.tag (← bracketItems handles fuel true)
      | some .openBrace =>
        skip
        return .mapping (← numbered p) p.tag (← braceEntries handles fuel true)
      | some .dash =>
        if !afterKey then emptyNode p
        else return .sequence (← numbered p) p.tag (← dashItems handles fuel)
      | some .sequenceStart =>
        if !inBlock then emptyNode p
        else
          skip
          return .sequence (← numbered p) p.tag (← blockItems handles fuel)
      | some .mappingStart =>
        if !inBlock then emptyNode p
        else
          skip
          return .mapping (← numbered p) p.tag (← blockEntries handles fuel)
      | _ => emptyNode p

/-- A node in a block, or the empty node before one of the given tokens. -/
def blockNode (handles : List (String × String)) : Nat → Bool → List Token → Read Node
  | 0, _, _ => failure
  | fuel + 1, afterKey, ends => do
    if ← isNext ends then return .empty else node handles fuel true afterKey

/-- A node inside brackets, or the empty node before one of the given tokens. -/
def flowNode (handles : List (String × String)) : Nat → List Token → Read Node
  | 0, _ => failure
  | fuel + 1, ends => do
    if ← isNext ends then return .empty else node handles fuel false false

/-- The items up to the end of the block. -/
def blockItems (handles : List (String × String)) : Nat → Read (List Node)
  | 0 => failure
  | fuel + 1 => do
    if ← accept .blockEnd then return []
    expect .dash
    let item ← blockNode handles fuel false [.dash, .blockEnd]
    return item :: (← blockItems handles fuel)

/-- The items of a sequence that is not a block of its own. -/
def dashItems (handles : List (String × String)) : Nat → Read (List Node)
  | 0 => failure
  | fuel + 1 => do
    if ← accept .dash then
      let item ← blockNode handles fuel false [.dash, .key, .value, .blockEnd]
      return item :: (← dashItems handles fuel)
    else return []

/-- The entries up to the end of the block. -/
def blockEntries (handles : List (String × String)) : Nat → Read (List (Node × Node))
  | 0 => failure
  | fuel + 1 => do
    if ← accept .blockEnd then return []
    expect .key
    let k ← blockNode handles fuel true [.key, .value, .blockEnd]
    let v ← if ← accept .value then blockNode handles fuel true [.key, .value, .blockEnd]
      else pure .empty
    return (k, v) :: (← blockEntries handles fuel)

/-- A value inside brackets, which is empty without a colon. -/
def flowValue (handles : List (String × String)) : Nat → Token → Read Node
  | 0, _ => failure
  | fuel + 1, closing => do
    if ← accept .value then flowNode handles fuel [.comma, closing] else return .empty

/-- A mapping of a single entry, which stands without braces in a sequence. Where the key is not
written, the token in its place is passed over. -/
def pair (handles : List (String × String)) : Nat → Read Node
  | 0 => failure
  | fuel + 1 => do
    let ends := [.value, .comma, .closeBracket]
    let isEmpty ← isNext ends
    let k ← flowNode handles fuel ends
    if isEmpty then skip
    return .mapping none none [(k, ← flowValue handles fuel .closeBracket)]

/-- The items up to the closing bracket, after a comma unless they are the first ones. -/
def bracketItems (handles : List (String × String)) : Nat → Bool → Read (List Node)
  | 0, _ => failure
  | fuel + 1, isFirst => do
    if ← accept .closeBracket then return []
    if !isFirst then
      expect .comma
      if ← accept .closeBracket then return []
    let item ← if ← accept .key then pair handles fuel else node handles fuel false false
    return item :: (← bracketItems handles fuel false)

/-- The entries up to the closing brace, after a comma unless they are the first ones. What is not
announced as a key has no value. -/
def braceEntries (handles : List (String × String)) : Nat → Bool → Read (List (Node × Node))
  | 0, _ => failure
  | fuel + 1, isFirst => do
    if ← accept .closeBrace then return []
    if !isFirst then
      expect .comma
      if ← accept .closeBrace then return []
    let entry ←
      if ← accept .key then
        let k ← flowNode handles fuel [.value, .comma, .closeBrace]
        pure (k, ← flowValue handles fuel .closeBrace)
      else pure (← node handles fuel false false, Node.empty)
    return entry :: (← braceEntries handles fuel false)

end

end Read

/-! ## Documents -/

/-- What the directives before a document declare. -/
structure Declarations where
  hasVersion : Bool
  handles : List (String × String)

namespace Declarations

def empty : Declarations := ⟨false, []⟩

/-- Add the declaration of a directive, which must not be there yet. -/
def add? (d : Declarations) : Token → Option Declarations
  | .version major minor =>
    if d.hasVersion ∨ major ≠ 1 ∨ ¬(minor = 1 ∨ minor = 2) then none
    else some { d with hasVersion := true }
  | .tagHandle handle start =>
    if (d.handles.lookup handle).isSome then none
    else some { d with handles := (handle, start) :: d.handles }
  | _ => none

end Declarations

def isDirective : Token → Bool
  | .version _ _ | .tagHandle _ _ => true
  | _ => false

namespace Document

/-- The document of all tokens. After directives its start is marked; marks of its end may come
after it. -/
def ofTokens? (tokens : List Token) : Option Document := do
  let directives := tokens.takeWhile isDirective
  let declarations ← directives.foldlM Declarations.add? .empty
  let handles := declarations.handles ++ defaultHandles
  let fuel := 3 * tokens.length + 3
  let content := tokens.drop directives.length
  let (root, r) ←
    match content with
    | .documentStart :: rest =>
      if rest.head?.all fun t => isDirective t || t == .documentStart || t == .documentEnd then
        some (Node.empty, ⟨rest, []⟩)
      else (Read.node handles fuel true false).run ⟨rest, []⟩
    | [] => none
    | _ =>
      if directives.isEmpty then (Read.node handles fuel true false).run ⟨content, []⟩ else none
  if r.tokens.all (· == .documentEnd) then return ⟨root⟩ else none

/-- The document of a text. -/
def ofText? (s : String) : Option Document := do ofTokens? (← Token.ofText? s)

end Document

end GridLayout.Yaml

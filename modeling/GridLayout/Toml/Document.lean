import GridLayout.Toml.Quoted
import GridLayout.Toml.Scalar
import GridLayout.Toml.Table

/-!
# Reading TOML

A document is a sequence of headers and of lines `key = value`. Scalars, arrays and inline tables
are read by recursive descent; keys and brackets have a greatest depth. A byte order mark before
the document is skipped.

* `Value.ofToml?` reads a whole text. A moment becomes an object whose only field has the text of
  the moment as its name, so that nothing else is read from it.
-/

namespace GridLayout.Toml

open Json (Reader)

/-- The most parts of a key, and the most brackets around a value. -/
def depthLimit : Nat := 79

/-! ## Keys -/

def isBareKeyChar (c : Char) : Bool := c.isAlphanum || c == '_' || c == '-'

def keyPart (s : List Char) : Option (String × List Char) :=
  match s with
  | '"' :: _ | '\'' :: _ => do
    let (cs, rest) ← shortString s
    return (String.ofList cs, rest)
  | _ =>
    let part := s.takeWhile isBareKeyChar
    if part.isEmpty then none else some (String.ofList part, s.drop part.length)

/-- The parts of a key, points between them; there are at most so many. -/
def keyParts : Nat → Reader (List String)
  | 0, _ => none
  | most + 1, s => do
    let (part, rest) ← keyPart (skipBlanks s)
    match skipBlanks rest with
    | '.' :: rest => do
      let (parts, rest) ← keyParts most rest
      return (part :: parts, rest)
    | rest => return ([part], rest)

def key : Reader (List String) := keyParts depthLimit

/-! ## Values -/

/-- A line's key and what stands between it and the value. -/
def assignment (s : List Char) : Option (List String × List Char) := do
  let (k, rest) ← key s
  match rest with
  | '=' :: rest => return (k, skipBlanks rest)
  | _ => none

/-- A value without brackets. -/
def scalar (s : List Char) : Option (Value × List Char) :=
  match s with
  | '"' :: _ | '\'' :: _ => (string s).map fun (cs, rest) => (.text (String.ofList cs), rest)
  | _ =>
    match moment? s with
    | some (text, rest) => some (.object [(text, .text text)], rest)
    | none =>
      let word := s.takeWhile isBareChar
      (bare? word).map fun v => (v, s.drop word.length)

mutual

/-- A value with at most `depth` brackets around another; `fuel` bounds the number of items. -/
def value : Nat → Nat → Reader Value
  | 0, _, _ => none
  | fuel + 1, depth, s =>
    match s, depth with
    | '[' :: _, 0 | '\x7b' :: _, 0 => none
    | '[' :: rest, depth + 1 => (items fuel depth rest).map fun (vs, rest) => (.list vs, rest)
    | '\x7b' :: rest, depth + 1 =>
      match skipBlanks rest with
      | '\x7d' :: rest => some (.object [], rest)
      | rest =>
        (inlineFields fuel depth [] rest).map fun (fs, rest) => (.object (fieldsToValues fs), rest)
    | s, _ => scalar s

/-- The items of an array up to its closing bracket. -/
def items : Nat → Nat → Reader (List Value)
  | 0, _, _ => none
  | fuel + 1, depth, s =>
    match skipLines false s with
    | ']' :: rest => some ([], rest)
    | s => do
      let (v, rest) ← value fuel depth s
      match skipLines false rest with
      | ']' :: rest => return ([v], rest)
      | ',' :: rest => do
        let (vs, rest) ← items fuel depth rest
        return (v :: vs, rest)
      | _ => none

/-- The fields of an inline table up to its closing brace, after the given ones. -/
def inlineFields : Nat → Nat → Fields → Reader Fields
  | 0, _, _, _ => none
  | fuel + 1, depth, before, s => do
    let (k, rest) ← assignment s
    let (v, rest) ← value fuel depth rest
    let all ← insert v true k before
    match skipBlanks rest with
    | '\x7d' :: rest => return (all, rest)
    | ',' :: rest => inlineFields fuel depth all rest
    | _ => none

end

/-! ## Documents -/

/-- Read the lines after a header; `fuel` bounds their number and that of the items of a value. -/
def lines : Nat → List String → Fields → List Char → Option Fields
  | 0, _, _, _ => none
  | fuel + 1, path, root, s =>
    match skipLines false s with
    | [] => some root
    | '[' :: '[' :: rest => do
      let (path, rest) ← key rest
      let root ← updateAt (defineRow (path.getLastD "")) path.dropLast root
      match rest with
      | ']' :: ']' :: rest => lines fuel path root (← endOfLine rest)
      | _ => none
    | '[' :: rest => do
      let (path, rest) ← key rest
      let root ← updateAt (defineTable (path.getLastD "")) path.dropLast root
      match rest with
      | ']' :: rest => lines fuel path root (← endOfLine rest)
      | _ => none
    | s => do
      let (k, rest) ← assignment s
      let (v, rest) ← value fuel depthLimit rest
      let root ← updateAt (insert v true k) path root
      lines fuel path root (← endOfLine rest)

/-- The text without a byte order mark at its start. -/
def dropByteOrderMark : List Char → List Char
  | '\uFEFF' :: rest => rest
  | s => s

end GridLayout.Toml

namespace GridLayout

/-- The value of a TOML text. -/
def Value.ofToml? (s : String) : Option Value :=
  let cs := Toml.dropByteOrderMark s.toList
  (Toml.lines (2 * cs.length + 3) [] [] cs).map fun fields => .object (Toml.fieldsToValues fields)

end GridLayout

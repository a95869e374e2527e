import GridLayout.Description.Reader
import GridLayout.Yaml.Document
import GridLayout.Yaml.Form

/-!
# Descriptions in YAML

A scalar is read as what is asked for, whatever else it might be; only in a layout its form decides.
Nothing written counts as a mapping or a sequence with nothing in it. References are followed.

* `Description.ofYaml?` reads a whole text.
-/

namespace GridLayout.Yaml

/-! ## Scalars -/

def boolTag : String := "tag:yaml.org,2002:bool"

def intTag : String := "tag:yaml.org,2002:int"

def floatTag : String := "tag:yaml.org,2002:float"

def nullTag : String := "tag:yaml.org,2002:null"

namespace Scalar

/-- The text of a scalar that may be something else than a text: a plain one, or a literal one of
the tag. -/
def textOf? (tag : String) (s : Scalar) : Option (List Char) :=
  if s.style = .plain ∨ (s.style = .literal ∧ s.tag = some tag) then some s.text.toList else none

/-- Nothing is written. -/
def isEmpty (s : Scalar) : Bool := s.style == .plain && s.text == ""

/-- A plain scalar without a tag is missing if there is nothing or a word for it. A tag for nothing
must be that of such a word. -/
def isMissing? (s : Scalar) : Option Bool :=
  if s.style ≠ .plain then some false
  else
    match s.tag with
    | none => some (s.text == "" || Form.isNull s.text)
    | some tag =>
      if tag = nullTag then if Form.isNull s.text then some true else none else some false

/-- The tag is of the document's own. -/
def isOwnTag (tag : Option String) : Bool := tag.any fun tag => tag.toList.head? == some '!'

/-- A whole number of up to 64 bits as content; there is none for longer ones up to 128 bits. -/
def intContent? (s : List Char) : Option (Option Content) :=
  match Form.nat? s, Form.negative? s with
  | some n, _ =>
    if n < Nat.pow 2 64 then some (some (.place n))
    else if n < Nat.pow 2 128 then some none else none
  | none, some n =>
    if n.natAbs ≤ Nat.pow 2 63 then some (some .other)
    else if n.natAbs ≤ Nat.pow 2 127 then some none else none
  | none, none => none

/-- The content of a plain scalar, by its form. -/
def plainContent? (s : String) : Option Content :=
  if s = "" ∨ Form.isNull s then some .null
  else if (Form.bool? s).isSome then some .other
  else
    match intContent? s.toList with
    | some content => content
    | none =>
      if !Form.isZeroPadded s.toList && (Form.float? s.toList).isSome then some .other
      else some (.text s)

/-- The content of a scalar. A tag of a form must be that of a scalar of the form. -/
def content? (s : Scalar) : Option Content :=
  match s.tag with
  | some tag =>
    if tag = boolTag then (Form.bool? s.text).map fun _ => .other
    else if tag = intTag then (intContent? s.text.toList).bind id
    else if tag = floatTag then (Form.float? s.text.toList).map fun _ => .other
    else if tag = nullTag then if Form.isNull s.text then some .null else none
    else if isOwnTag s.tag then none
    else some (.text s.text)
  | none => if s.style = .plain then plainContent? s.text else some (.text s.text)

end Scalar

/-! ## Contents -/

namespace Document

/-- How many times the size of a document references may be followed for a content. -/
def referenceLimit : Nat := 100

/-- The most collections around a value in a layout. -/
def depthLimit : Nat := 126

/-- The node that a reference stands for, if another one may be followed. -/
def followOnce (d : Document) (n : Node) : StateT Nat Option Node := do
  match n with
  | .reference _ =>
    let left ← get
    if left = 0 then failure
    set (left - 1)
  | _ => pure ()
  d.follow? n

/-- The content of a node with at most `depth` collections around another; the state counts the
references that may still be followed. -/
def content (d : Document) : Nat → Node → StateT Nat Option Content
  | depth, n => do
    match ← d.followOnce n, depth with
    | .scalar _ s, _ => s.content?
    | .sequence _ tag items, depth + 1 => do
      if Scalar.isOwnTag tag then failure
      return .list (← items.mapM (content d depth))
    | .mapping _ tag entries, depth + 1 => do
      if Scalar.isOwnTag tag then failure
      return .map (← entries.mapM fun (k, v) => return (← content d depth k, ← content d depth v))
    | _, _ => failure

/-- The scalar of a node. -/
def scalar? (d : Document) (n : Node) : Option Scalar := do
  match ← d.follow? n with
  | .scalar _ s => some s
  | _ => none

/-- The contents of keys and values, but not of the values of a key that is this name. -/
def taggedEntries (d : Document) (name : String) (entries : List (Node × Node)) :
    StateT Nat Option (List Node × List (Content × Content)) := do
  let keyed ← entries.mapM fun (k, v) => return (← d.content depthLimit k, v)
  let (tags, others) := keyed.partition fun (k, _) => k.isText name
  return (tags.map Prod.snd, ← others.mapM fun (k, v) => return (k, ← d.content depthLimit v))

/-- The text of the one field of this name, and the contents of the others; or the text of the first
item, and the contents of the others. -/
def tagged? (d : Document) (name : String) (n : Node) : Option (String × Content) := do
  let limit := referenceLimit * d.root.size
  match ← d.follow? n with
  | .mapping _ tag entries =>
    if Scalar.isOwnTag tag then none
    match ← (d.taggedEntries name entries).run limit with
    | (([kind], others), _) => return ((← d.scalar? kind).text, .map others)
    | _ => none
  | .sequence _ tag (first :: others) =>
    if Scalar.isOwnTag tag then none
    let (others, _) ← (others.mapM (d.content depthLimit)).run limit
    return ((← d.scalar? first).text, .list others)
  | _ => none

end Document

/-! ## Places in documents -/

/-- A node and the document that its references are of. -/
structure Place where
  document : Document
  node : Node

namespace Place

/-- The node itself, or the one that it refers to. -/
def target? (p : Place) : Option Node := p.document.follow? p.node

def scalar? (p : Place) : Option Scalar := p.document.scalar? p.node

/-- Read a scalar that is not a text by its characters. -/
def typed? {α : Type} (tag : String) (read : List Char → Option α) (p : Place) : Option α := do
  read (← (← p.scalar?).textOf? tag)

def items? (p : Place) : Option (List Place) := do
  match ← p.target? with
  | .sequence _ _ items => some (items.map (⟨p.document, ·⟩))
  | .scalar _ s => if s.isEmpty then some [] else none
  | _ => none

/-- The fields of a mapping, whose keys must be scalars. -/
def fields? (p : Place) : Option (List (String × Place)) := do
  match ← p.target? with
  | .mapping _ _ entries =>
    entries.mapM fun (k, v) => return ((← p.document.scalar? k).text, ⟨p.document, v⟩)
  | .scalar _ s => if s.isEmpty then some [] else none
  | _ => none

def isMissing? (p : Place) : Option Bool := do
  match ← p.target? with
  | .scalar _ s => s.isMissing?
  | _ => some false

instance : Source Place where
  text? p := p.scalar?.map Scalar.text
  bool? := typed? boolTag fun s => Form.bool? (String.ofList s)
  int? := typed? intTag Form.int?
  nat? := typed? intTag Form.nat?
  float? := typed? floatTag Form.float?
  items? := items?
  fields? _ := fields?
  isMissing? := isMissing?
  tagged? name p := p.document.tagged? name p.node

end Place

end GridLayout.Yaml

namespace GridLayout

/-- The description in a YAML text. -/
def Description.ofYaml? (s : String) : Option Description := do
  let d ← Yaml.Document.ofText? s
  ofSource? (⟨d, d.root⟩ : Yaml.Place)

end GridLayout

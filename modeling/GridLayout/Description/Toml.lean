import GridLayout.Description.Reader
import GridLayout.Toml.Document

/-!
# Descriptions in TOML

A structure is a table or, without names, an array of its fields in order, of which the ones that
are too many are ignored. Nothing stands for a missing value.

* `Description.ofToml?` reads a whole text.
-/

namespace GridLayout

namespace Content

mutual

/-- The content of a value. No number is a place: in TOML every name is a text. -/
def ofValue : Value → Content
  | .null => .null
  | .bool _ | .int _ | .float _ => .other
  | .text s => .text s
  | .list items => .list (ofItems items)
  | .object fields => .map (ofFields fields)

def ofItems : List Value → List Content
  | [] => []
  | v :: rest => ofValue v :: ofItems rest

def ofFields : List (String × Value) → List (Content × Content)
  | [] => []
  | (name, v) :: rest => (.text name, ofValue v) :: ofFields rest

end

end Content

namespace Toml

def text? : Value → Option String
  | .text s => some s
  | _ => none

/-- The value of a field that must be there, and the other fields; or the first item of a list, and
the others. -/
def tagged? (name : String) : Value → Option (String × Content)
  | .object fields => do
    let kind ← requiredField fields name text?
    return (kind, .map (Content.ofFields (fields.filter fun field => field.1 != name)))
  | .list (first :: rest) => do return (← text? first, .list (Content.ofItems rest))
  | _ => none

instance : Source Value where
  text? := text?
  bool?
    | .bool b => some b
    | _ => none
  int?
    | .int n => some n
    | _ => none
  nat?
    | .int n => if 0 ≤ n then some n.toNat else none
    | _ => none
  float?
    | .int n => some (.ofInt n)
    | .float x => some x
    | _ => none
  items?
    | .list items => some items
    | _ => none
  fields? names
    | .object fields => some fields
    | .list items => some (names.zip items)
    | _ => none
  isMissing? _ := some false
  tagged? := tagged?

end Toml

/-- The description in a TOML text. -/
def Description.ofToml? (s : String) : Option Description := do ofSource? (← Value.ofToml? s)

end GridLayout

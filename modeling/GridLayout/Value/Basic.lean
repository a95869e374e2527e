import GridLayout.Binary64.Decimal

/-!
# Tree-shaped data

The values that data formats have in common. Integers and floating-point numbers are told apart by
how they are written.

* `Value.field?` looks up a field of an object.
-/

namespace GridLayout

inductive Value where
  | null
  | bool (b : Bool)
  | int (n : Int)
  | float (x : Binary64)
  | text (s : String)
  | list (items : List Value)
  | object (fields : List (String × Value))
deriving Inhabited

namespace Value

/-- The first field of a name. -/
def lookup (name : String) (fields : List (String × Value)) : Option Value :=
  (fields.find? fun field => field.1 == name).map Prod.snd

/-- The first field of a name, if the value is an object. -/
def field? (v : Value) (name : String) : Option Value :=
  match v with
  | .object fields => lookup name fields
  | _ => none

/-- Put a field at the end, or in the place of the first one of its name. -/
def putField (name : String) (v : Value) : List (String × Value) → List (String × Value)
  | [] => [(name, v)]
  | (other, w) :: rest =>
    if other = name then (name, v) :: rest else (other, w) :: putField name v rest

end Value

end GridLayout

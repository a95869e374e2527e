import GridLayout.Value.Basic

/-!
# Persisted forms

A type with a persisted form is written as a `Value` and read back from one. Reading is exact about
types and ranges, ignores fields it does not know, and says nothing about why it fails.

* `Persisted` is the class of these types; `required`, `defaulted` and `optional` read a field.
-/

namespace GridLayout

class Persisted (α : Type) where
  encode : α → Value
  decode : Value → Option α

export Persisted (encode decode)

namespace Persisted

variable {α β : Type}

/-! ## Fields -/

section
variable [Persisted α]

/-- A field that must be there. -/
def required (v : Value) (name : String) : Option α := do decode (← v.field? name)

/-- A field that has a default if it is not there. -/
def defaulted (v : Value) (name : String) (default : α) : Option α :=
  match v.field? name with
  | some w => decode w
  | none => some default

/-- A field that may be missing or null. -/
def optional (v : Value) (name : String) : Option (Option α) :=
  match v.field? name with
  | none | some .null => some none
  | some w => (decode w).map some

/-- The field of an optional value, which is left out if there is none. -/
def optionalField (name : String) : Option α → List (String × Value)
  | some a => [(name, encode a)]
  | none => []

end

/-! ## Scalars, lists and pairs -/

/-- A whole number between two bounds. -/
def intBetween? (low high : Int) : Value → Option Int
  | .int n => if low ≤ n ∧ n ≤ high then some n else none
  | _ => none

/-- Coordinates and extents have 32 bits. -/
instance : Persisted Int where
  encode := .int
  decode := intBetween? (-2147483648) 2147483647

/-- Indices, spans and names of components have 64 bits. -/
instance : Persisted Nat where
  encode n := .int n
  decode v := (intBetween? 0 18446744073709551615 v).map Int.toNat

instance : Persisted Bool where
  encode := .bool
  decode
    | .bool b => some b
    | _ => none

instance : Persisted Binary64 where
  encode := .float
  decode
    | .int n => some (.ofInt n)
    | .float x => some x
    | _ => none

instance [Persisted α] : Persisted (List α) where
  encode l := .list (l.map encode)
  decode
    | .list items => items.mapM decode
    | _ => none

instance [Persisted α] [Persisted β] : Persisted (α × β) where
  encode p := .list [encode p.1, encode p.2]
  decode
    | .list [a, b] => do return (← decode a, ← decode b)
    | _ => none

/-- A name of a finite type; it may also be the only field of an object, with nothing in it. -/
abbrev ofName (write : α → String) (read : String → Option α) : Persisted α where
  encode a := .text (write a)
  decode
    | .text s => read s
    | .object [(s, .null)] => read s
    | _ => none

/-- A text that is read by a function and written by another. -/
abbrev ofText (write : α → String) (read : String → Option α) : Persisted α where
  encode a := .text (write a)
  decode
    | .text s => read s
    | _ => none

end Persisted

end GridLayout

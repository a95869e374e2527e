import GridLayout.Value.Basic

/-!
# Tables under construction

The lines of a document are put one after another into a tree that remembers how each table came
about, since only some of them may be defined or extended again.

* `defineTable` and `defineRow` do what a header says, `insert` what a line with a value says;
  `updateAt` goes to the table of a header.
* `fieldsToValues` gives the finished values.
-/

namespace GridLayout.Toml

/-- How a table came about: as part of a longer header, by its header, or by a key of several
parts. -/
inductive Origin where
  | implied
  | header
  | dotted
deriving DecidableEq

/-- A table under construction holds finished values, tables, and lists of tables, the latest one
first. -/
inductive Node where
  | leaf (v : Value)
  | table (origin : Origin) (fields : List (String × Node))
  | tables (rows : List (List (String × Node)))

abbrev Fields : Type := List (String × Node)

/-- Change the field of a name or add one. -/
def updateField (name : String) (f : Option Node → Option Node) : Fields → Option Fields
  | [] => do return [(name, ← f none)]
  | (other, n) :: rest =>
    if other = name then do return (other, ← f (some n)) :: rest
    else do return (other, n) :: (← updateField name f rest)

/-- Change the table at a path of headers; the latest table of a list stands for it. -/
def updateAt (f : Fields → Option Fields) : List String → Fields → Option Fields
  | [], fields => f fields
  | name :: path, fields =>
    updateField name (fun
      | none => (updateAt f path []).map (.table .implied)
      | some (.table origin inner) => (updateAt f path inner).map (.table origin)
      | some (.tables (row :: rows)) => (updateAt f path row).map fun row => .tables (row :: rows)
      | some _ => none) fields

/-- Define the table of a header, which must not have been defined. -/
def defineTable (name : String) : Fields → Option Fields :=
  updateField name fun
    | none => some (.table .header [])
    | some (.table .implied inner) => some (.table .header inner)
    | some _ => none

/-- Start another table of a list. -/
def defineRow (name : String) : Fields → Option Fields :=
  updateField name fun
    | none => some (.tables [[]])
    | some (.tables rows) => some (.tables ([] :: rows))
    | some _ => none

/-- Put in a value under a key that is not used. The key may pass through tables without a header
and through the latest table of a list, but it ends where it started or in a table that such keys
have made: `mayEnd` says whether the table at hand is one of these. -/
def insert (v : Value) (mayEnd : Bool) : List String → Fields → Option Fields
  | [], _ => none
  | [name], fields =>
    updateField name (fun
      | none => if mayEnd then some (.leaf v) else none
      | some _ => none) fields
  | name :: path, fields =>
    updateField name (fun
      | none => (insert v true path []).map (.table .dotted)
      | some (.table .header _) => none
      | some (.table origin inner) =>
        (insert v (origin == .dotted) path inner).map (.table origin)
      | some (.tables (row :: rows)) =>
        (insert v false path row).map fun row => .tables (row :: rows)
      | some _ => none) fields

mutual

def Node.toValue : Node → Value
  | .leaf v => v
  | .table _ fields => .object (fieldsToValues fields)
  | .tables rows => .list (rowsToValues rows).reverse

def fieldsToValues : Fields → List (String × Value)
  | [] => []
  | (name, n) :: rest => (name, n.toValue) :: fieldsToValues rest

def rowsToValues : List Fields → List Value
  | [] => []
  | row :: rest => .object (fieldsToValues row) :: rowsToValues rest

end

end GridLayout.Toml

import GridLayout.Description.Basic

/-!
# The properties of a layout

Which properties a layout has depends on its kind, so they are kept as they are until that is
known. They are then looked up by name or, where they are listed without names, by place.

* `Content.fields?` gives the properties by their names, `Content.layoutKind?` the layout.
-/

namespace GridLayout

/-- Data of which only texts and their arrangement matter. -/
inductive Content where
  | null
  | text (s : String)
  /-- A number without a sign, which as a name stands for the place of a property. -/
  | place (n : Nat)
  /-- A boolean, or a number that is not a place. -/
  | other
  | list (items : List Content)
  | map (entries : List (Content × Content))
deriving Inhabited

/-! ## Fields -/

section
variable {σ α : Type}

/-- The value of a field, if it is there; it must not be there twice. -/
def soleField? (fields : List (String × σ)) (name : String) : Option (Option σ) :=
  match fields.filter fun field => field.1 == name with
  | [] => some none
  | [field] => some (some field.2)
  | _ => none

variable (fields : List (String × σ)) (name : String) (read : σ → Option α)

/-- A field that must be there. -/
def requiredField : Option α := do read (← ← soleField? fields name)

/-- A field that has a default if it is not there. -/
def defaultedField (default : α) : Option α := do
  match ← soleField? fields name with
  | some v => read v
  | none => some default

end

namespace Content

/-- The name of a property: a text, or the place of one of the names. A place after them all is
that of no property. -/
def fieldName? (names : List String) : Content → Option String
  | .text s => some s
  | .place n => some (names.getD n "")
  | _ => none

/-- The properties by their names, of which a list has no more than there are names. -/
def fields? (names : List String) : Content → Option (List (String × Content))
  | .map entries => entries.mapM fun (k, v) => return (← fieldName? names k, v)
  | .list items => if items.length ≤ names.length then some (names.zip items) else none
  | _ => none

/-! ## Properties -/

def text? : Content → Option String
  | .text s => some s
  | _ => none

/-- The content is this text. -/
def isText (s : String) (v : Content) : Bool := v.text? == some s

def texts? : Content → Option (List String)
  | .list items => items.mapM text?
  | _ => none

def length? (v : Content) : Option Length := do (Length.ofText (← v.text?)).toOption

/-- There is nothing in it. -/
def isEmpty : Content → Bool
  | .null | .map [] => true
  | _ => false

/-- The alignment of a name or a place. -/
def alignmentAt? : Content → Option ButtonAlignment
  | .text s => ButtonAlignment.ofName? s
  | .place n => ButtonAlignment.all[n]?
  | _ => none

/-- An alignment by its name, which may also be the only key of a map, with nothing in it. -/
def alignment? : Content → Option ButtonAlignment
  | .text s => ButtonAlignment.ofName? s
  | .map [(k, v)] => if v.isEmpty then alignmentAt? k else none
  | _ => none

/-- The layout of a kind with these properties. -/
def layoutKind? (kind : String) (v : Content) : Option LayoutKind :=
  match kind with
  | "percent" => do
    let fields ← v.fields? ["columns", "rows", "column_groups", "row_groups"]
    return .free (← requiredField fields "columns" text?) (← requiredField fields "rows" text?)
      (← defaultedField fields "column_groups" texts? [])
      (← defaultedField fields "row_groups" texts? [])
  | "border" => do
    let fields ← v.fields? ["margin", "gap"]
    return .border (← defaultedField fields "margin" length? .zero)
      (← defaultedField fields "gap" length? .zero)
  | "button" => do
    let fields ← v.fields? ["margin", "gap", "alignment"]
    return .buttons (← defaultedField fields "margin" length? ButtonBarProperties.defaultMargin)
      (← defaultedField fields "gap" length? ButtonBarProperties.defaultGap)
      (← defaultedField fields "alignment" alignment? .right)
  | _ => none

end Content

end GridLayout

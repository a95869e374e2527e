import GridLayout.Value.Basic

/-!
# Writing JSON

Two layouts of the same text: on one line, and with every item and field on a line of its own,
indented by two spaces for each level. Only quotes, backslashes and control characters are escaped.
-/

namespace GridLayout.Json

/-! ## Scalars -/

/-- Two hexadecimal digits of a control character. -/
def controlCode (c : Char) : List Char :=
  let ds := Nat.toDigits 16 c.toNat
  List.replicate (2 - ds.length) '0' ++ ds

def escapedChar (c : Char) : List Char :=
  match c with
  | '"' => ['\\', '"']
  | '\\' => ['\\', '\\']
  | '\x08' => ['\\', 'b']
  | '\x0c' => ['\\', 'f']
  | '\n' => ['\\', 'n']
  | '\r' => ['\\', 'r']
  | '\t' => ['\\', 't']
  | c => if c.toNat < 0x20 then ['\\', 'u', '0', '0'] ++ controlCode c else [c]

/-- The text between double quotes. -/
def quoted (s : String) : String := String.ofList ('"' :: s.toList.flatMap escapedChar ++ ['"'])

/-- A finite number has a point; another one has no form in JSON. -/
def floatText (x : Binary64) : String :=
  match x with
  | .finite _ _ =>
    let text := x.toChars
    String.ofList (if '.' ∈ text then text else text ++ ['.', '0'])
  | _ => "null"

/-! ## Values -/

/-- The brackets around items, on one line. -/
def inline (opening closing : String) (items : List String) : String :=
  opening ++ ",".intercalate items ++ closing

/-- The brackets around items, each item on a line of its own one level deeper. -/
def block (level : Nat) (opening closing : String) (items : List String) : String :=
  let indent (n : Nat) : String := "\n" ++ String.ofList (List.replicate (2 * n) ' ')
  if items.isEmpty then opening ++ closing
  else opening ++ ",".intercalate (items.map (indent (level + 1) ++ ·)) ++ indent level ++ closing

mutual

/-- The text of a value, whose brackets are set by `brackets` at their level; `colon` stands after
the name of a field. -/
def render (brackets : Nat → String → String → List String → String) (colon : String)
    (level : Nat) : Value → String
  | .null => "null"
  | .bool b => if b then "true" else "false"
  | .int n => toString n
  | .float x => floatText x
  | .text s => quoted s
  | .list items => brackets level "[" "]" (renderItems brackets colon (level + 1) items)
  | .object fields =>
    brackets level "\x7b" "\x7d" (renderFields brackets colon (level + 1) fields)

def renderItems (brackets : Nat → String → String → List String → String) (colon : String)
    (level : Nat) : List Value → List String
  | [] => []
  | v :: rest => render brackets colon level v :: renderItems brackets colon level rest

def renderFields (brackets : Nat → String → String → List String → String) (colon : String)
    (level : Nat) : List (String × Value) → List String
  | [] => []
  | (name, v) :: rest =>
    (quoted name ++ colon ++ render brackets colon level v) ::
      renderFields brackets colon level rest

end

end GridLayout.Json

namespace GridLayout.Value

/-- The JSON text on one line. -/
def toJson (v : Value) : String := Json.render (fun _ => Json.inline) ":" 0 v

/-- The JSON text on indented lines. -/
def toPrettyJson (v : Value) : String := Json.render Json.block ": " 0 v

end GridLayout.Value

import GridLayout.Description.Content

/-!
# Reading descriptions

The parts of a description in the tree of a data format. A known field occurs at most once, others
are ignored. A format says how its values are read as what is asked for: that is its `Source`.

* `Description.ofSource?` reads a description.
-/

namespace GridLayout

/-- How the values of a data format are read. -/
class Source (σ : Type) where
  text? : σ → Option String
  bool? : σ → Option Bool
  int? : σ → Option Int
  nat? : σ → Option Nat
  float? : σ → Option Binary64
  items? : σ → Option (List σ)
  /-- The fields of a value, which may list them without names in the given order. -/
  fields? : List String → σ → Option (List (String × σ))
  /-- Whether a value that may be missing is. -/
  isMissing? : σ → Option Bool
  /-- The value of a field that says of what kind the others are, and these. -/
  tagged? : String → σ → Option (String × Content)

namespace Description

open Source

section
variable {σ α : Type} [Source σ]

/-- A field that may be missing. -/
def optionalField (fields : List (String × σ)) (name : String) (read : σ → Option α) :
    Option (Option α) := do
  match ← soleField? fields name with
  | some v => if ← isMissing? v then return none else (read v).map some
  | none => return none

/-! ## Numbers -/

/-- A coordinate or an extent has 32 bits. -/
def extent? (v : σ) : Option Int :=
  (int? v).filter fun n => -2147483648 ≤ n && n ≤ 2147483647

/-- A resolution has 32 bits. -/
def resolution? (v : σ) : Option Nat := (nat? v).filter (· ≤ 4294967295)

/-- An index or a span has 64 bits. -/
def index? (v : σ) : Option Nat := (nat? v).filter (· ≤ 18446744073709551615)

/-! ## Parts of a description -/

def screen? (v : σ) : Option Screen := do
  let fields ← fields? ["resolution", "font_size"] v
  return ⟨← defaultedField fields "resolution" resolution? Screen.default.resolution,
    ← defaultedField fields "font_size" float? Screen.default.fontSize⟩

def insets? (v : σ) : Option Insets := do
  let fields ← fields? ["left", "top", "right", "bottom"] v
  return ⟨← requiredField fields "left" extent?, ← requiredField fields "top" extent?,
    ← requiredField fields "right" extent?, ← requiredField fields "bottom" extent?⟩

def container? (v : σ) : Option Container := do
  let fields ← fields? ["width", "height", "insets"] v
  return ⟨⟨← requiredField fields "width" extent?, ← requiredField fields "height" extent?⟩,
    ← defaultedField fields "insets" insets? .zero⟩

def layoutKind? (v : σ) : Option LayoutKind := do
  let (kind, content) ← tagged? "kind" v
  content.layoutKind? kind

def component? (v : σ) : Option ComponentDescription := do
  let fields ← fields?
    ["name", "width", "height", "min_width", "min_height", "column", "row", "span_x", "span_y",
      "region"] v
  let name ← requiredField fields "name" text?
  let width ← requiredField fields "width" extent?
  let height ← requiredField fields "height" extent?
  return {
    name
    preferred := ⟨width, height⟩
    minimumWidth := ← optionalField fields "min_width" extent?
    minimumHeight := ← optionalField fields "min_height" extent?
    column := ← optionalField fields "column" index?
    row := ← optionalField fields "row" index?
    spanX := ← defaultedField fields "span_x" index? 1
    spanY := ← defaultedField fields "span_y" index? 1
    region := ← optionalField fields "region" text? }

def components? (v : σ) : Option (List ComponentDescription) := do
  (← items? v).mapM component?

/-- The description that a value holds. -/
def ofSource? (v : σ) : Option Description := do
  let fields ← fields? ["screen", "container", "can_shrink", "layout", "components"] v
  return {
    screen := ← defaultedField fields "screen" screen? .default
    container := ← optionalField fields "container" container?
    canShrink := ← defaultedField fields "can_shrink" bool? true
    layout := ← requiredField fields "layout" layoutKind?
    components := ← defaultedField fields "components" components? [] }

end

end Description

end GridLayout

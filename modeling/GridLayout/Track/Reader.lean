import GridLayout.Length.Reader
import GridLayout.Text.Basic
import GridLayout.Track.Basic

/-!
# Track specifications

One track is written as one to three parts between slashes: `SIZE`, `ALIGN/SIZE`, `SIZE/WEIGHT` or
`ALIGN/SIZE/WEIGHT`. A size is a keyword, a keyword with a least size in parentheses, or a least
size alone, which stands for a fixed track. A list of tracks is separated by blanks, commas and
semicolons.

* `Track.read` reads one track, `Track.readList` a list.
* Of two parts the first is taken for a size if it can be one, and for an alignment otherwise.
-/

namespace GridLayout

/-- The alignment of a name in any case, blanks around it ignored. -/
def Alignment.read (s : List Char) : Except LayoutError Alignment :=
  match ofName? (String.ofList (Text.uppercase (Text.trim s))) with
  | some alignment => .ok alignment
  | none => .error (.unreadable (String.ofList s) .unknownAlignment)

def Alignment.ofText (s : String) : Except LayoutError Alignment := read s.toList

/-- The sizing of a name in any case, blanks around it ignored. -/
def Sizing.read (s : List Char) : Except LayoutError Sizing :=
  match ofName? (String.ofList (Text.uppercase (Text.trim s))) with
  | some sizing => .ok sizing
  | none => .error (.unreadable (String.ofList s) .unknownSizing)

def Sizing.ofText (s : String) : Except LayoutError Sizing := read s.toList

/-- A length that is not below zero. -/
abbrev LeastSize : Type := { l : Length // l.value.isNegative = false }

/-- A weight. -/
abbrev Weight : Type := { n : Nat // n ≤ maxWeight }

def LeastSize.zero : LeastSize := ⟨.zero, Length.isNegative_zero⟩

def Weight.zero : Weight := ⟨0, Nat.zero_le _⟩

/-- The weight of a percentage. -/
def Weight.ofInt? (n : Int) : Option Weight :=
  if h : 0 ≤ n ∧ n.toNat ≤ maxWeight then some ⟨n.toNat, h.2⟩ else none

theorem Length.isNegative_of_read {s : List Char} {l : Length} (h : Length.read s = .ok l) :
    l.value.isNegative = false := by
  unfold Length.read at h
  simp only at h
  split at h
  · cases h
  · split at h
    · cases h
    · split at h
      · cases h
      · split at h
        · cases h; exact Binary64.isNegative_ofRatio _ _
        · split at h
          · cases h; exact Binary64.isNegative_ofRatio _ _
          · cases h

/-- Read a least size: the grammar of lengths has no sign. -/
def LeastSize.read (s : List Char) : Except LayoutError LeastSize :=
  match h : Length.read s with
  | .ok l => .ok ⟨l, Length.isNegative_of_read h⟩
  | .error e => .error e

namespace Track

/-- A keyword, a keyword with a least size in parentheses, or a least size alone, which
`readLeast` reads. -/
def readSizeWith {α : Type} (readLeast : List Char → Except LayoutError α) (zero : α)
    (part : List Char) : Except LayoutError (Sizing × α) :=
  let fault (f : SyntaxFault) : Except LayoutError (Sizing × α) :=
    .error (.unreadable (String.ofList part) f)
  let text := Text.trim part
  let keyword := text.takeWhile (· != '(')
  match keyword.isEmpty, text.dropWhile (· != '(') with
  | false, _ :: inner =>
    if inner.getLast? = some ')' then do
      let sizing ← Sizing.read keyword
      let least ← readLeast inner.dropLast
      return (sizing, least)
    else fault .unbalancedParenthesis
  | _, _ =>
    match Sizing.read text with
    | .ok .fixed => fault .noMinimum
    | .ok sizing => .ok (sizing, zero)
    | .error _ =>
      match readLeast text with
      | .ok least => .ok (.fixed, least)
      | .error _ => fault .invalidSize

/-- A size as it is part of a track. -/
def readSize (part : List Char) : Except LayoutError (Sizing × LeastSize) :=
  readSizeWith LeastSize.read .zero part

/-- A whole number of 64 bits that is a weight. -/
def readWeight (part : List Char) : Except LayoutError Weight :=
  match Text.intOfBits? 64 (Text.trim part) with
  | none => .error (.unreadable (String.ofList part) .invalidWeight)
  | some n =>
    match Weight.ofInt? n with
    | some weight => .ok weight
    | none => .error (.unreadable (String.ofList part) .weightOutOfRange)

/-- Put the parts of a track together; the alignment is read before the weight. -/
def assemble (alignment : Option (List Char)) (size : Sizing × LeastSize)
    (weight : Option (List Char)) (default : Alignment) : Except LayoutError Track := do
  let alignment ← match alignment with
    | some part => Alignment.read part
    | none => pure default
  let weight ← match weight with
    | some part => readWeight part
    | none => pure .zero
  return ⟨alignment, size.1, size.2.val, weight.val, size.2.property, weight.property⟩

/-- Read one track; `default` stands in for a missing alignment. -/
def read (spec : List Char) (default : Alignment) : Except LayoutError Track :=
  if (Text.trim spec).isEmpty then .error (.unreadable (String.ofList spec) .emptySpec)
  else
    match Text.split (· == '/') spec with
    | [size] => do assemble none (← readSize size) none default
    | [first, second] =>
      match readSize first with
      | .ok size => assemble none size (some second) default
      | .error _ => do assemble (some first) (← readSize second) none default
    | [alignment, size, weight] => do
      assemble (some alignment) (← readSize size) (some weight) default
    | _ => .error (.unreadable (String.ofList spec) .tooManyParts)

/-- The characters between the tracks of a list. -/
def isSeparator (c : Char) : Bool := c == ' ' || c == ',' || c == ';'

/-- Read a list of tracks, of which there is at least one. -/
def readList (spec : List Char) (default : Alignment) : Except LayoutError (List Track) := do
  let tracks ← (Text.words isSeparator spec).mapM fun word => read word default
  if tracks.isEmpty then throw (.unreadable (String.ofList spec) .noTracks)
  return tracks

/-- The track of a specification, filled unless it says otherwise. -/
def ofText (spec : String) : Except LayoutError Track := read spec.toList .fill

end Track

end GridLayout

import GridLayout.Yaml.Cursor

/-!
# Scalars of whole lines

A literal or folded scalar consists of the lines after its header that are indented more than what
it belongs to. Folding turns a single line end between two lines without blanks at their starts
into a space. What happens to the line ends after the last line is said in the header.

* `Block.scalar` reads a header and its lines.
-/

namespace GridLayout.Yaml.Block

/-- What happens to the line ends after the last line. -/
inductive Chomping where
  | strip
  | clip
  | keep
deriving DecidableEq, Repr

/-- The header of a scalar; the indentation of its lines may be given. -/
structure Header where
  chomping : Chomping
  indentation : Option Nat
deriving DecidableEq, Repr

/-! ## Headers -/

def chomping? (c : Cursor) : Option (Chomping × Cursor) :=
  match c.rest with
  | '-' :: _ => some (.strip, c.next)
  | '+' :: _ => some (.keep, c.next)
  | _ => none

/-- A digit that is not zero, if there is a digit. -/
def indentation? (c : Cursor) : Option (Option Nat × Cursor) :=
  match c.rest with
  | a :: _ =>
    if a = '0' then none
    else if a.isDigit then some (some (a.toNat - '0'.toNat), c.next)
    else some (none, c)
  | [] => some (none, c)

/-- The two parts of a header in any order; each may be missing. -/
def header? (c : Cursor) : Option (Header × Cursor) :=
  match chomping? c with
  | some (chomping, c) => (indentation? c).map fun (n, c) => (⟨chomping, n⟩, c)
  | none => do
    let (n, c) ← indentation? c
    match n, chomping? c with
    | some n, some (chomping, c) => return (⟨chomping, some n⟩, c)
    | n, _ => return (⟨.clip, n⟩, c)

/-! ## Lines -/

/-- Past the indentation and the empty lines that come next: their line ends, the greatest column
reached, and the cursor. Without a limit all spaces count as indentation. No tab stands there.
`fuel` bounds the characters that are left, here and below. -/
def emptyLines (limit : Option Nat) : Nat → Nat → Cursor → Option (List Char × Nat × Cursor)
  | 0, reached, c => some ([], reached, c)
  | fuel + 1, reached, c =>
    let spaces := (c.rest.takeWhile (· == ' ')).length
    let c := c.advance (match limit with
      | some n => min spaces (n - c.column)
      | none => spaces)
    let reached := max reached c.column
    if c.rest.head? = some '\t' ∧ limit.all (c.column < ·) then none
    else if c.rest.head?.any isBreak then
      (emptyLines limit fuel reached c.nextLine).map fun (ends, reached, after) =>
        (c.lineEnd ++ ends, reached, after)
    else some ([], reached, c)

/-- The text of the lines at the indentation, after the end of a line and those of the empty lines
that follow it; then the same two for the last line, and the cursor. -/
def contentLines (literal : Bool) (indentation : Nat) : Nat → Bool → List Char → List Char →
    Cursor → Option (List Char × List Char × List Char × Cursor)
  | 0, _, _, _, _ => none
  | fuel + 1, afterBlank, lineEnd, emptyEnds, c =>
    if c.column ≠ indentation ∨ c.rest.isEmpty then some ([], lineEnd, emptyEnds, c)
    else do
      let startsBlank := c.rest.head?.any isBlank
      let folds := !literal && lineEnd == ['\n'] && !afterBlank && !startsBlank
      let gap := if folds then if emptyEnds.isEmpty then [' '] else emptyEnds
        else lineEnd ++ emptyEnds
      let line := c.rest.takeWhile fun a => !isBreak a
      let c := c.advance line.length
      let (ends, _, after) ← emptyLines (some indentation) fuel 0 c.nextLine
      let (text, lineEnd, emptyEnds, after) ←
        contentLines literal indentation fuel startsBlank c.lineEnd ends after
      return (gap ++ line ++ text, lineEnd, emptyEnds, after)

/-- A scalar after its first character, inside a block at the given column. -/
def scalar (fuel : Nat) (literal : Bool) (parent : Option Nat) (c : Cursor) :
    Option (List Char × Cursor) := do
  let (header, c) ← header? c
  let c := c.skipComment
  if !atLineEnd c.rest then none
  let c := c.nextLine
  let given := header.indentation.map (parent.getD 0 + ·)
  let (ends, reached, c) ← emptyLines given fuel 0 c
  let indentation := given.getD (max reached (max 1 ((parent.map (· + 1)).getD 0)))
  let (text, lineEnd, emptyEnds, c) ←
    contentLines literal indentation fuel false [] ends c
  let tail := match header.chomping with
    | .strip => []
    | .clip => lineEnd
    | .keep => lineEnd ++ emptyEnds
  return (text ++ tail, c)

end GridLayout.Yaml.Block

import GridLayout.Length.Basic

/-!
# Tracks

A track is one column or one row of a grid: how components are aligned in it, how it is sized,
its least size, and its share of the space left over. A weight is a percentage, and a least size
is never below zero; both are part of the type.
-/

namespace GridLayout

/-- How a component is placed in the space of its cells. -/
inductive Alignment where
  | leading
  | trailing
  | center
  | fill
deriving DecidableEq, Repr

namespace Alignment

def all : List Alignment := [leading, trailing, center, fill]

def name : Alignment → String
  | leading => "START"
  | trailing => "END"
  | center => "CENTER"
  | fill => "FULL"

/-- The alignment with exactly this name. -/
def ofName? (name : String) : Option Alignment := all.find? fun a => a.name == name

end Alignment

/-- What the size of a track follows: nothing but its least size, or the minimum or the preferred
sizes of its components. -/
inductive Sizing where
  | fixed
  | minimum
  | preferred
deriving DecidableEq, Repr

namespace Sizing

def all : List Sizing := [fixed, minimum, preferred]

def name : Sizing → String
  | fixed => "NONE"
  | minimum => "MINIMUM"
  | preferred => "PREFERRED"

/-- The sizing with exactly this name. -/
def ofName? (name : String) : Option Sizing := all.find? fun s => s.name == name

end Sizing

/-- The largest weight of a track. -/
def maxWeight : Nat := 100

/-- One column or row. -/
structure Track where
  alignment : Alignment
  sizing : Sizing
  minimum : Length
  weight : Nat
  minimum_nonneg : minimum.value.isNegative = false
  weight_le : weight ≤ maxWeight
deriving DecidableEq

namespace Track

/-- A track that takes the preferred size of its components and no space left over. -/
def preferred (alignment : Alignment) : Track :=
  ⟨alignment, .preferred, .zero, 0, Length.isNegative_zero, Nat.zero_le _⟩

/-- The usual column. -/
def defaultColumn : Track := preferred .fill

/-- The usual row. -/
def defaultRow : Track := preferred .center

instance : Inhabited Track := ⟨defaultColumn⟩

/-- The canonical specification: alignment, sizing with the least size in parentheses, weight. -/
def toSpec (t : Track) : String :=
  t.alignment.name ++ "/" ++ t.sizing.name ++ "(" ++ t.minimum.toText ++ ")/" ++ toString t.weight

end Track

end GridLayout

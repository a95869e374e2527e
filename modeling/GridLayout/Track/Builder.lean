import GridLayout.Track.Reader

/-!
# Building tracks step by step

A `TrackBuilder` collects the properties of one track. A value out of range is not stored but
remembered, and the first one is what `create` reports; `create` leaves a builder that has kept
nothing but its default alignment.
-/

namespace GridLayout

structure TrackBuilder where
  defaultAlignment : Alignment
  alignment : Option Alignment
  sizing : Option Sizing
  minimum : Option LeastSize
  weight : Weight
  fault : Option ArgumentFault
deriving DecidableEq

namespace TrackBuilder

/-- A builder with nothing set. -/
def new (default : Alignment) : TrackBuilder := ⟨default, none, none, none, .zero, none⟩

/-- A builder for columns. -/
def forColumns : TrackBuilder := new .fill

/-- A builder for rows. -/
def forRows : TrackBuilder := new .center

instance : Inhabited TrackBuilder := ⟨forColumns⟩

/-- Forget all but the default alignment. -/
def reset (b : TrackBuilder) : TrackBuilder := new b.defaultAlignment

def setDefaultAlignment (b : TrackBuilder) (a : Alignment) : TrackBuilder :=
  { b with defaultAlignment := a }

def setAlignment (b : TrackBuilder) (a : Alignment) : TrackBuilder := { b with alignment := some a }

def setSizing (b : TrackBuilder) (s : Sizing) : TrackBuilder := { b with sizing := some s }

/-- Remember a fault unless there is an earlier one. -/
def refuse (b : TrackBuilder) (fault : ArgumentFault) : TrackBuilder :=
  { b with fault := b.fault.or (some fault) }

/-- Set the least size, which must not be below zero. -/
def setMinimum (b : TrackBuilder) (l : Length) : TrackBuilder :=
  if h : l.value.isNegative = false then { b with minimum := some ⟨l, h⟩ }
  else b.refuse (.negativeMinimum l)

/-- Set the weight, which must be a percentage. -/
def setWeight (b : TrackBuilder) (n : Int) : TrackBuilder :=
  match Weight.ofInt? n with
  | some weight => { b with weight }
  | none => b.refuse (.weightOutOfRange n)

/-- The track of the properties set so far. A least size alone makes a fixed track. -/
def build (b : TrackBuilder) : Except LayoutError Track :=
  match b.fault with
  | some fault => .error (.argument fault)
  | none =>
    if b.sizing.isNone && b.minimum.isNone then .error (.state .noSize)
    else
      let minimum := b.minimum.getD .zero
      .ok ⟨b.alignment.getD b.defaultAlignment, b.sizing.getD .fixed, minimum.val, b.weight.val,
        minimum.property, b.weight.property⟩

/-- The track of the properties set so far, and the builder for the next one. -/
def create (b : TrackBuilder) : Except LayoutError Track × TrackBuilder := (b.build, b.reset)

/-- The usual column, whatever was set. -/
def createColumn (b : TrackBuilder) : Track × TrackBuilder := (.defaultColumn, b.reset)

/-- The usual row, whatever was set. -/
def createRow (b : TrackBuilder) : Track × TrackBuilder := (.defaultRow, b.reset)

/-- The track of a specification, read with the default alignment of the builder. -/
def read (b : TrackBuilder) (spec : String) : Except LayoutError Track × TrackBuilder :=
  (Track.read spec.toList b.defaultAlignment, b.reset)

end TrackBuilder

end GridLayout

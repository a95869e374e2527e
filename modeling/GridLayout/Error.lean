import GridLayout.Length.Basic
import GridLayout.Text.Quoted

/-!
# What can go wrong

An error is its cause: an argument that is refused, a text that is not in a grammar, a grid that
does not fit together, or an index beyond the end of a list. `LayoutError.message` puts it into
words.
-/

namespace GridLayout

/-- Why an argument is refused. -/
inductive ArgumentFault where
  | negativeMinimum (minimum : Length)
  | weightOutOfRange (weight : Int)
  | fewIndices
  | repeatedIndex (index : Nat)
  | emptySpan
  | noColumns
  | noRows
  | emptyDimensions (columns rows : Nat)
  | occupiedRegion (region : BorderRegion) (occupant : ComponentId)
deriving DecidableEq

/-- Why a text is not in a grammar. -/
inductive SyntaxFault where
  | unknownUnit
  | emptyNumber
  | textAfterUnit
  | noValue
  | unknownUnitToken (token : String)
  | unknownAlignment
  | unknownSizing
  | emptySpec
  | tooManyParts
  | unbalancedParenthesis
  | noMinimum
  | invalidSize
  | invalidWeight
  | weightOutOfRange
  | noTracks
  | invalidIndex (token : String)
  | unknownRegion
  | unknownButtonAlignment
deriving DecidableEq

/-- Why something is incomplete or does not fit. -/
inductive StateFault where
  | noSize
  | noPosition
  | emptySpan (id : ComponentId) (horizontal vertical : Nat)
  | outside (axis : Axis) (id : ComponentId) (start span count : Nat)
  | targetOutside (axis : Axis) (id : ComponentId) (target count : Nat)
  | sharedStart (first second : ComponentId) (column row : Nat)
deriving DecidableEq

inductive LayoutError where
  | argument (fault : ArgumentFault)
  | unreadable (input : String) (fault : SyntaxFault)
  | state (fault : StateFault)
  | outOfBounds (index length : Nat)
deriving DecidableEq

/-! ## Wording -/

def Axis.singular : Axis → String
  | horizontal => "column"
  | vertical => "row"

def Axis.plural : Axis → String
  | horizontal => "columns"
  | vertical => "rows"

def ArgumentFault.message : ArgumentFault → String
  | negativeMinimum minimum => "minimum size must not be negative: " ++ minimum.toText
  | weightOutOfRange weight => s!"weight must be between 0 and 100: {weight}"
  | fewIndices => "a cell group must contain at least 2 indices"
  | repeatedIndex index => s!"duplicate index {index} in cell group"
  | emptySpan => "span must be at least 1"
  | noColumns => "no column constraints defined"
  | noRows => "no row constraints defined"
  | emptyDimensions columns rows => s!"invalid grid dimensions {columns} x {rows}"
  | occupiedRegion region occupant =>
    "region " ++ region.name ++ " is already occupied by " ++ occupant.toText

def SyntaxFault.message : SyntaxFault → String
  | unknownUnit => "unknown unit"
  | emptyNumber => "empty unit string"
  | textAfterUnit => "unexpected text after unit"
  | noValue => "missing numeric value"
  | unknownUnitToken token => "unknown unit " ++ Text.quote token
  | unknownAlignment => "unknown cell alignment"
  | unknownSizing => "unknown cell size"
  | emptySpec => "empty cell specification"
  | tooManyParts => "too many components"
  | unbalancedParenthesis => "unbalanced parenthesis"
  | noMinimum => "NONE requires a minimum size"
  | invalidSize => "invalid size declaration"
  | invalidWeight => "invalid weight factor"
  | weightOutOfRange => "weight must be between 0 and 100"
  | noTracks => "no cell constraints defined"
  | invalidIndex token => "invalid cell index " ++ Text.quote token
  | unknownRegion => "unknown border region"
  | unknownButtonAlignment => "unknown button alignment"

def StateFault.message : StateFault → String
  | noSize => "neither cell size nor minimum size is defined"
  | noPosition => "no position defined"
  | emptySpan id horizontal vertical =>
    "component " ++ id.toText ++ s!" has an empty span {horizontal}x{vertical}"
  | outside axis id start span count =>
    "component " ++ id.toText ++ " at " ++ axis.singular ++
      s!" {start} with span {span} exceeds {count} " ++ axis.plural
  | targetOutside axis id target count =>
    "component " ++ id.toText ++ " targets " ++ axis.singular ++ s!" {target} of {count}"
  | sharedStart first second column row =>
    "components " ++ first.toText ++ " and " ++ second.toText ++
      s!" both start in cell ({column}, {row})"

def LayoutError.message : LayoutError → String
  | argument fault => "invalid argument: " ++ fault.message
  | unreadable input fault => "cannot parse " ++ Text.quote input ++ ": " ++ fault.message
  | state fault => "invalid layout state: " ++ fault.message
  | outOfBounds index length => s!"index {index} out of bounds for length {length}"

end GridLayout

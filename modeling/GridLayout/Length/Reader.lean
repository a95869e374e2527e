import GridLayout.Error
import GridLayout.Text.Basic

/-!
# Reading lengths

A length is a numeral with digits before or after the point, or both, then the name of a unit in
letters of any case; blanks may stand around and between them. Without a unit it is in pixels.
-/

namespace GridLayout

/-- The unit of a name in any case, blanks around it ignored. -/
def LengthUnit.read? (s : List Char) : Option LengthUnit :=
  ofName? (String.ofList (Text.lowercase (Text.trim s)))

def LengthUnit.ofText (s : String) : Except LayoutError LengthUnit :=
  match read? s.toList with
  | some unit => .ok unit
  | none => .error (.unreadable s .unknownUnit)

namespace Length

/-- The digits before the point, those after it, and the rest. -/
def scanNumeral (s : List Char) : List Char × List Char × List Char :=
  let whole := s.takeWhile Char.isDigit
  match s.dropWhile Char.isDigit with
  | '.' :: rest => (whole, rest.takeWhile Char.isDigit, rest.dropWhile Char.isDigit)
  | rest => (whole, [], rest)

/-- Read a length; the text is kept for the error. -/
def read (s : List Char) : Except LayoutError Length :=
  let fault (f : SyntaxFault) : Except LayoutError Length := .error (.unreadable (String.ofList s) f)
  let text := Text.trim s
  if text.isEmpty then fault .emptyNumber
  else
    let (whole, fraction, rest) := scanNumeral text
    let token := Text.trimStart rest
    if token.any Text.isBlank then fault .textAfterUnit
    else if whole.isEmpty && fraction.isEmpty then fault .noValue
    else
      let value := (Decimal.mk (Text.digitsValue (whole ++ fraction)) fraction.length).toBinary64 false
      if token.isEmpty then .ok ⟨value, .pixel⟩
      else
        match LengthUnit.read? token with
        | some unit => .ok ⟨value, unit⟩
        | none => fault (.unknownUnitToken (String.ofList token))

def ofText (s : String) : Except LayoutError Length := read s.toList

end Length

end GridLayout

import ComponentAssembly.Failure
import ComponentAssembly.Numeral.Decimal
import ComponentAssembly.Text.LowerCase

/-! Converting the text of a parameter to the type that a setter takes. -/

namespace ComponentAssembly

open Numeral Text

/-- The truth value that a text names, blanks around it and case put aside. -/
def readFlag? (text : String) : Option Bool :=
  let name := lower (trimBy isBlank text.toList)
  if name = "true".toList then some true
  else if name = "false".toList then some false
  else none

/-- The integer that a text writes, if it lies within bounds. -/
def readBounded (bounds : Bounds) (text : String) : Except ConversionProblem Value :=
  match readInteger? text with
  | none => .error .noNumber
  | some n => if bounds.holds n then .ok (.integer n) else .error (.outside n bounds)

/-- A floating-point number that was read, if there was one. -/
def orNoNumber (b? : Option Binary) : Except ConversionProblem Value :=
  match b? with
  | none => .error .noNumber
  | some b => .ok (.real b)

/-- The value of a type that a text stands for. -/
def ScalarType.parse (type : ScalarType) (text : String) : Except ConversionProblem Value :=
  match type with
  | .text => .ok (.text text)
  | .flag =>
    match readFlag? text with
    | none => .error (.noFlag text)
    | some b => .ok (.flag b)
  | .integer => readBounded .wide text
  | .narrowInteger => readBounded .narrow text
  | .real => orNoNumber (readDouble? text)
  | .narrowReal => orNoNumber (readSingle? text)

/-- The value of a type that the text of a parameter stands for, or a failure about the parameter. -/
def ScalarType.parseFor (type : ScalarType) (parameter text : String) : Except Failure Value :=
  (type.parse text).mapError (.unconvertible parameter text type)

end ComponentAssembly

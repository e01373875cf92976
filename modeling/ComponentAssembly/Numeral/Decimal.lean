import ComponentAssembly.Numeral.Binary
import ComponentAssembly.Numeral.Plain

/-! Reading decimal numbers as binary ones. -/

namespace ComponentAssembly.Numeral

open Text

/-- What a numeral with a point or an exponent stands for. -/
inductive Decimal where
  | finite (negative : Bool) (coefficient : Nat) (exponent : Int)
  | infinite (negative : Bool)
  | nan
deriving Repr, DecidableEq

/-- Removes the underscores, each of which must stand between two digits; `before` is the character
in front. -/
def withoutSeparators? (before : Char) : List Char → Option (List Char)
  | [] => if before = '_' then none else some []
  | c :: rest =>
    if c = '_' then if before.isDigit then withoutSeparators? c rest else none
    else if before = '_' && !c.isDigit then none
    else (withoutSeparators? c rest).map (c :: ·)

/-- The number that a text of ASCII digits writes. -/
def ofDigitChars (s : List Char) : Nat := ofDigits (s.map fun c => c.toNat - 0x30)

/-- The power of ten at the end of a numeral. -/
def exponent? : List Char → Option Int
  | [] => some 0
  | c :: rest =>
    let (negative, digits) := splitSign rest
    if (c = 'e' || c = 'E') && !digits.isEmpty && digits.all Char.isDigit then
      some (if negative then -(ofDigitChars digits : Int) else ofDigitChars digits)
    else none

/-- The digits after a decimal point, if there is one, and what follows. -/
def fraction : List Char → List Char × List Char
  | '.' :: rest => rest.span Char.isDigit
  | rest => ([], rest)

/-- Digits with a point anywhere among them, and a power of ten. -/
def scientific? (negative : Bool) (s : List Char) : Option Decimal := do
  let (whole, rest) := s.span Char.isDigit
  let (part, rest) := fraction rest
  if whole.isEmpty && part.isEmpty then none
  else return .finite negative (ofDigitChars (whole ++ part)) ((← exponent? rest) - part.length)

/-- The number that a text writes in decimal, or an infinity or no number by name. -/
def readDecimal? (s : String) : Option Decimal := do
  let (negative, rest) := splitSign (trimBy isMargin (← withoutSeparators? ' ' (plain s)))
  let name := rest.map Char.toLower
  if name = "inf".toList || name = "infinity".toList then return .infinite negative
  else if name = "nan".toList then return .nan
  else scientific? negative rest

/-- The double nearest to a decimal number. Powers of ten far outside the range of doubles are
decided without being computed. -/
def Decimal.toDouble : Decimal → Binary
  | .nan => .nan
  | .infinite negative => .infinite negative
  | .finite negative coefficient exponent =>
    if coefficient = 0 then Format.double.round negative 0 1
    else if 400 < exponent then .infinite negative
    else if (coefficient.log2 : Int) + 1100 < -3 * exponent then Format.double.round negative 0 1
    else if exponent < 0 then Format.double.round negative coefficient (tenTo exponent.natAbs)
    else Format.double.round negative (coefficient * tenTo exponent.natAbs) 1

/-- The double that a text writes. -/
def readDouble? (s : String) : Option Binary := (readDecimal? s).map Decimal.toDouble

/-- The single-precision number nearest to the double that a text writes, itself as a double; none
if a finite double lies beyond all of them. -/
def readSingle? (s : String) : Option Binary := do
  let d ← readDouble? s
  match d, Format.single.convert d with
  | .finite .., .infinite _ => none
  | _, single => return Format.double.convert single

end ComponentAssembly.Numeral

import ComponentAssembly.Text.Blank
import ComponentAssembly.Text.Digit

/-! The ASCII form of a numeral, in which digits and blanks of every script are read. -/

namespace ComponentAssembly.Numeral

open Text

/-- A character of a numeral in ASCII. What is neither ASCII nor a digit nor a blank becomes a
question mark, which no numeral contains. -/
def plainChar (c : Char) : Char :=
  if c.toNat < 0x80 then c
  else if isBlank c then ' '
  else match digitValue? c with
    | some d => Char.ofNat (0x30 + d)
    | none => '?'

/-- The blanks that may surround a numeral once it is in ASCII. -/
def isMargin (c : Char) : Bool := c = ' ' || (0x9 ≤ c.toNat && c.toNat ≤ 0xD)

/-- A numeral in ASCII. -/
def plain (s : String) : List Char := s.toList.map plainChar

/-- The value of an ASCII digit. -/
def digit? (c : Char) : Option Nat := if c.isDigit then some (c.toNat - 0x30) else none

/-- The number that digits write in base ten. -/
def ofDigits (digits : List Nat) : Nat := digits.foldl (fun n d => 10 * n + d) 0

/-- Splits off a sign; a numeral without one is not negative. -/
def splitSign : List Char → Bool × List Char
  | '-' :: rest => (true, rest)
  | '+' :: rest => (false, rest)
  | rest => (false, rest)

end ComponentAssembly.Numeral

import ComponentAssembly.Numeral.Plain

/-! Reading integers of bounded length and range. -/

namespace ComponentAssembly.Numeral

open Text

/-- Digits with at most one underscore between any two of them. -/
def digitRun? : List Char → Option (List Nat)
  | [] => none
  | [c] => (digit? c).map ([·])
  | c :: '_' :: rest => do return (← digit? c) :: (← digitRun? rest)
  | c :: rest => do return (← digit? c) :: (← digitRun? rest)

/-- The greatest number of digits that an integer may be written with. -/
def digitLimit : Nat := 4300

/-- The integer that a text writes: blanks around it, a sign and digits. -/
def readInteger? (s : String) : Option Int := do
  let (negative, rest) := splitSign (trimBy isMargin (plain s))
  let digits ← digitRun? rest
  if digits.length ≤ digitLimit then
    return if negative then -(ofDigits digits : Int) else ofDigits digits
  else none

/-- A range of integers, both ends in it. -/
structure Bounds where
  lower : Int
  upper : Int
deriving Repr, DecidableEq

/-- The integers of 64 bits. -/
def Bounds.wide : Bounds := ⟨-9223372036854775808, 9223372036854775807⟩

/-- The integers of 32 bits. -/
def Bounds.narrow : Bounds := ⟨-2147483648, 2147483647⟩

/-- Whether an integer lies within the bounds. -/
def Bounds.holds (b : Bounds) (n : Int) : Bool := b.lower ≤ n && n ≤ b.upper

end ComponentAssembly.Numeral

import ComponentAssembly.Numeral.Binary

/-! Doubles in the fewest decimal digits that read back as the same double. -/

namespace ComponentAssembly.Numeral

/-- Whether `num / den` rounds to the double `significand * 2 ^ exponent`: it lies between the
midpoints to the neighbours, which themselves round to an even significand. -/
def roundsTo (significand : Nat) (exponent : Int) (num den : Nat) : Bool :=
  let lowest := significand = twoTo 52 && Format.double.minExponent < exponent
  -- quarters of the last bit
  let (n, d) := scaled (4 * num) den exponent
  let low := (if lowest then 4 * significand - 1 else 4 * significand - 2) * d
  let high := (4 * significand + 2) * d
  if significand % 2 = 0 then low ≤ n && n ≤ high else low < n && n < high

/-- The position of the first digit of `num / den`: `k` where it lies between `10 ^ k` and
`10 ^ (k + 1)`, looked for upwards from `-bound`. -/
def leadingPower (num den : Nat) (bound : Nat) : Int :=
  let least := (List.range (2 * bound)).find? fun k =>
    num * tenTo bound < den * tenTo (k + 1)
  (least.getD 0 : Int) - bound

/-- The multiple of `10 ^ power` nearest to `num / den` among the two next to it that round to the
double; the coefficient of the power. -/
def gridPoint? (significand : Nat) (exponent : Int) (num den : Nat) (power : Int) : Option Nat :=
  let (n, d) := if power < 0 then (num * tenTo power.natAbs, den) else (num, den * tenTo power.natAbs)
  let back (k : Nat) : Nat × Nat :=
    if power < 0 then (k, tenTo power.natAbs) else (k * tenTo power.natAbs, 1)
  let fits (k : Nat) : Bool := roundsTo significand exponent (back k).1 (back k).2
  let below := n / d
  let near := nearest n d
  if fits near then some near
  else if fits below then some below
  else if fits (below + 1) then some (below + 1)
  else none

/-- The digits of a positive double and the power of ten of the first one. -/
def shortestDigits (significand : Nat) (exponent : Int) : List Char × Int :=
  let (num, den) := scaled significand 1 (-exponent)
  let lead := leadingPower num den 330
  let hit := (List.range 18).findSome? fun (places : Nat) =>
    (gridPoint? significand exponent num den (lead - places)).map fun k => (k, lead - places)
  let (k, power) := hit.getD (0, 0)
  let digits := Nat.toDigits 10 k
  let kept := (digits.reverse.dropWhile (· = '0')).reverse
  (kept, power + (digits.length - 1 : Nat))

/-- Whether a double is written without a power of ten: from a ten-thousandth up to sixteen digits
before the point. -/
def isPositional (lead : Int) : Bool := -4 ≤ lead && lead < 16

/-- A positive double in decimal. -/
def decimalText (significand : Nat) (exponent : Int) : List Char :=
  let (digits, lead) := shortestDigits significand exponent
  if isPositional lead then
    if lead < 0 then '0' :: '.' :: List.replicate (lead.natAbs - 1) '0' ++ digits
    else
      let whole := lead.toNat + 1
      let padded := digits ++ List.replicate (whole - digits.length) '0'
      let part := padded.drop whole
      padded.take whole ++ '.' :: if part.isEmpty then ['0'] else part
  else
    let places := Nat.toDigits 10 lead.natAbs
    let power := 'e' :: (if lead < 0 then '-' else '+') ::
      List.replicate (2 - places.length) '0' ++ places
    match digits with
    | [] => power
    | [d] => d :: power
    | d :: rest => d :: '.' :: rest ++ power

/-- A double in decimal. -/
def Binary.text : Binary → String
  | .nan => "nan"
  | .infinite negative => if negative then "-inf" else "inf"
  | .finite negative significand exponent =>
    let digits := if significand = 0 then ['0', '.', '0'] else decimalText significand exponent
    String.ofList (if negative then '-' :: digits else digits)

end ComponentAssembly.Numeral

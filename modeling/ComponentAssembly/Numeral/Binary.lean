import ComponentAssembly.Numeral.Power

/-! Binary floating-point numbers as exact dyadic values, and rounding to a format. -/

namespace ComponentAssembly.Numeral

/-- A binary format: the bits of a significand, and the exponents of the last bit of the smallest
and of the greatest numbers. -/
structure Format where
  precision : Nat
  minExponent : Int
  maxExponent : Int
deriving Repr, DecidableEq

/-- Double precision. -/
def Format.double : Format := ⟨53, -1074, 971⟩

/-- Single precision. -/
def Format.single : Format := ⟨24, -149, 104⟩

/-- A binary number: `significand * 2 ^ exponent` with a sign, an infinity, or no number. -/
inductive Binary where
  | finite (negative : Bool) (significand : Nat) (exponent : Int)
  | infinite (negative : Bool)
  | nan
deriving Repr, DecidableEq

/-- The integer nearest to a quotient; of two equally near ones, the even one. -/
def nearest (num den : Nat) : Nat :=
  let q := num / den
  let r := num % den
  if 2 * r < den then q
  else if den < 2 * r then q + 1
  else q + q % 2

/-- The quotient `num / den` divided by `2 ^ exponent`, again as a quotient. -/
def scaled (num den : Nat) (exponent : Int) : Nat × Nat :=
  if exponent < 0 then (num * twoTo exponent.natAbs, den) else (num, den * twoTo exponent.natAbs)

/-- The exponent of the last bit of `num / den` in a format of this precision that has no bound on
exponents. -/
def freeExponent (precision num den : Nat) : Int :=
  let guess : Int := (num.log2 : Int) - den.log2 - (precision - 1 : Nat)
  let (n, d) := scaled num den guess
  if n / d < twoTo (precision - 1) then guess - 1 else guess

/-- The number of a format nearest to `num / den`, ties to the even significand. A magnitude that
rounds beyond the greatest number becomes an infinity. -/
def Format.round (f : Format) (negative : Bool) (num den : Nat) : Binary :=
  if num = 0 then .finite negative 0 f.minExponent
  else
    let exponent := max f.minExponent (freeExponent f.precision num den)
    let (n, d) := scaled num den exponent
    let significand := nearest n d
    let (significand, exponent) :=
      if significand = twoTo f.precision then (twoTo (f.precision - 1), exponent + 1)
      else (significand, exponent)
    if f.maxExponent < exponent then .infinite negative
    else .finite negative significand exponent

/-- A dyadic value in another format. -/
def Format.convert (f : Format) : Binary → Binary
  | .finite negative significand exponent =>
    let (num, den) := scaled significand 1 (-exponent)
    f.round negative num den
  | b => b

/-- The 64 bits that store a number of double precision. -/
def Binary.bits : Binary → Nat
  | .nan => 0x7FF8000000000000
  | .infinite negative => signBit negative + 0x7FF0000000000000
  | .finite negative significand exponent =>
    signBit negative +
      if significand < twoTo 52 then significand
      else (exponent + 1075).toNat * twoTo 52 + (significand - twoTo 52)
where
  /-- The sign, as the highest bit. -/
  signBit (negative : Bool) : Nat := if negative then twoTo 63 else 0

/-- The number of double precision that 64 bits store. -/
def Binary.ofBits (bits : Nat) : Binary :=
  let negative : Bool := twoTo 63 ≤ bits
  let biased : Nat := bits / twoTo 52 % twoTo 11
  let part := bits % twoTo 52
  if biased = 2047 then if part = 0 then .infinite negative else .nan
  else if biased = 0 then .finite negative part Format.double.minExponent
  else .finite negative (twoTo 52 + part) (Int.ofNat biased - 1075)

end ComponentAssembly.Numeral

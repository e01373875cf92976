import ComponentAssembly.Text.LowerCase.Table

/-! Lower case for the letters of every script. -/

namespace ComponentAssembly.Text

/-- The lower-case form that a run gives to a code point. -/
def CaseRun.lower? (run : CaseRun) (code : Nat) : Option Nat :=
  if run.first ≤ code ∧ code ≤ run.last ∧ (code - run.first) % run.stride = 0 then
    some (run.image + (code - run.first))
  else none

/-- The lower-case form of a code point; one without such a form is its own. -/
def lowerCode (code : Nat) : Nat := (caseRuns.findSome? (·.lower? code)).getD code

/-- The lower-case form of a letter outside any word. Only the dotted capital I has a form of two
characters. -/
def lowerChar (c : Char) : List Char :=
  if c = 'İ' then ['i', '\u0307'] else [Char.ofNat (lowerCode c.toNat)]

/-- Whether the first character that is not passed over has a case. -/
def meetsCased (s : List Char) : Bool :=
  (s.find? fun c => !caseIgnorableCodes.covers c.toNat).any fun c => casedCodes.covers c.toNat

/-- The lower-case form of a sigma, which has a form of its own at the end of a word. -/
def lowerSigma (before after : List Char) : Char :=
  if meetsCased before && !meetsCased after then 'ς' else 'σ'

/-- Lower case of a text whose earlier characters, last first, are `before`. -/
def lowerAfter (before : List Char) : List Char → List Char
  | [] => []
  | c :: rest =>
    (if c = 'Σ' then [lowerSigma before rest] else lowerChar c) ++ lowerAfter (c :: before) rest

/-- Lower case of a text. -/
def lower (s : List Char) : List Char := lowerAfter [] s

@[simp] theorem lower_nil : lower [] = [] := rfl

end ComponentAssembly.Text

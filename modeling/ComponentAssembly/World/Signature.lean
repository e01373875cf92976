import ComponentAssembly.World.TypeExpr

/-! Signatures, and what becomes of values handed over in order. -/

namespace ComponentAssembly

/-- How a parameter takes values: by position or by name, one or all that are left. -/
inductive ParamKind where
  | positional
  | positionalOnly
  | namedOnly
  | positionalRest
  | namedRest
deriving Repr, DecidableEq

/-- A parameter of a signature. -/
structure Param where
  name : String
  kind : ParamKind
  type? : Option TypeExpr
  default? : Option Value
deriving Repr

namespace Param

/-- Whether a parameter takes one value by position. -/
def takesPosition (p : Param) : Bool := p.kind = .positional || p.kind = .positionalOnly

/-- Whether a parameter takes all values that are left. -/
def takesRest (p : Param) : Bool := p.kind = .positionalRest || p.kind = .namedRest

/-- Whether a call may leave a parameter out. -/
def mayBeLeftOut (p : Param) : Bool := p.default?.isSome || p.takesRest

end Param

/-- Why a signature does not fit the values at hand. -/
inductive Misfit where
  | tooMany
  | missing (parameter : String)
deriving Repr, DecidableEq

/-- The value of each parameter when values are handed over in order. -/
def bind : List Param → List Value → Except Misfit (List Value)
  | [], [] => .ok []
  | [], _ :: _ => .error .tooMany
  | p :: ps, arguments =>
    match p.kind, arguments with
    | .positionalRest, _ => (.tuple arguments :: ·) <$> bind ps []
    | .namedRest, [] => (.map [] :: ·) <$> bind ps []
    | .namedOnly, _ :: _ | .namedRest, _ :: _ => .error .tooMany
    | _, [] =>
      match p.default? with
      | some v => (v :: ·) <$> bind ps []
      | none => .error (.missing p.name)
    | _, a :: rest => (a :: ·) <$> bind ps rest

/-- Why a constructor that cannot be asked beforehand refuses a call. The instance itself is counted
among the values handed over. -/
inductive Refusal where
  | wrongCount (fewest most given : Nat)
  | missingPositions (names : List String)
  | missingNames (names : List String)
deriving Repr, DecidableEq

/-- How the refusal of a call is described: too many values come first, then missing ones by position,
then missing ones by name. -/
def refusal (ps : List Param) (arguments : List Value) : Refusal :=
  let positions := ps.filter Param.takesPosition
  let needed (p : Param) : Bool := p.default?.isNone
  let missing := (positions.drop arguments.length).filter needed
  if positions.length < arguments.length && !ps.any (fun p => p.kind = .positionalRest) then
    .wrongCount ((positions.filter needed).length + 1) (positions.length + 1)
      (arguments.length + 1)
  else if !missing.isEmpty then .missingPositions (missing.map Param.name)
  else .missingNames ((ps.filter fun p => p.kind = .namedOnly && needed p).map Param.name)

/-- The parameter through which a single value would be received: the first one, if it takes a value
by position and all others may be left out. -/
def receiver? : List Param → Option Param
  | [] => none
  | p :: rest => if p.takesPosition && rest.all Param.mayBeLeftOut then some p else none

/-- The value that the first parameter got, or nothing if there are no parameters. -/
def firstValue (bound : List Value) : Value := bound.headD .nothing

/-- The values received by position, in order. -/
def positionalValues : List Param → List Value → List Value
  | p :: ps, v :: vs =>
    match p.kind, v with
    | .positional, v | .positionalOnly, v => v :: positionalValues ps vs
    | .positionalRest, .tuple items => items ++ positionalValues ps vs
    | _, _ => positionalValues ps vs
  | _, _ => []

end ComponentAssembly

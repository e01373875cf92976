import ComponentAssembly.Build.State

/-! Constructing instances, directly or through factory functions. -/

namespace ComponentAssembly

open Build

/-- What instances are made with. -/
inductive Factory where
  | cls (c : ClassRef)
  | function (f : FunctionDecl)
deriving Repr

/-- The signature of a stand-in for a constructor: anything goes. -/
def standInParams : List Param :=
  [⟨"values", .positionalRest, none, none⟩, ⟨"named", .namedRest, none, none⟩]

variable (w : World)

/-- The signature of a factory as it can be read by now. -/
def World.signature? (adopted : Adoptions) : Factory → Option (List Param)
  | .function f => some f.params
  | .cls c =>
    if w.isUnreadable c then none
    else if w.awaitsConstructor adopted c then some standInParams
    else some (w.constructor adopted c).params

/-- The values that parameters get in a call. -/
def received (ps : List Param) (arguments : List Value) : Build (List Value) :=
  match bind ps arguments with
  | .ok bound => pure bound
  | .error _ => throw (.noCall (.refused (refusal ps arguments)))

/-- Refuses classes that have no instances of their own: abstract ones, and protocols that have not got
a constructor. -/
def World.refuseInstances (adopted : Adoptions) (c : ClassRef) : Build Unit :=
  if w.isOpen c && !(w.unwrittenNames c).isEmpty then
    throw (.noCall (.abstractClass c.name (w.abstractNames c)))
  else if w.awaitsConstructor adopted c && (w.protocol? c).isSome then throw (.noCall .protocolClass)
  else pure ()

/-- Constructs an instance of a class. A constructor that is taken over is taken over for good, even if
it refuses the call. -/
def World.construct (c : ClassRef) (arguments : List Value) : Build Value := do
  let s ← get
  w.refuseInstances s.adopted c
  match c with
  | .predefined p =>
    if arguments.isEmpty then return .plain p else throw (.noCall (.takesNothing c.name))
  | .own n =>
    let k := w.constructor s.adopted c
    adopt (w.adopting s.adopted n)
    let bound ← received k.params arguments
    let number ← allocate c
    emit (.constructed c.name number (firstValue bound))
    raise k.raises? (firstValue bound)
    return .object number

/-- Calls a factory function. -/
def World.callFunction (f : FunctionDecl) (arguments : List Value) : Build Value := do
  let bound ← received f.params arguments
  emit (.called f.name.name (firstValue bound))
  raise f.raises? (firstValue bound)
  match f.outcome with
  | .gives v => return v.value
  | .creates c passing =>
    w.construct c (if passing then positionalValues f.params bound else [])

/-- Makes an instance with a factory. -/
def World.make : Factory → List Value → Build Value
  | .cls c, arguments => w.construct c arguments
  | .function f, arguments => w.callFunction f arguments

/-- What the signature of a factory, if it can be read by now, has against a call. -/
def World.misfit? (adopted : Adoptions) (f : Factory) (arguments : List Value) : Option Misfit :=
  match (w.signature? adopted f).map (bind · arguments) with
  | some (.error m) => some m
  | _ => none

/-- Makes an instance after a look at the signature: if it does not fit, the factory is not called, and
if it cannot be read, the call decides. -/
def World.makeChecked (misfit : Misfit → Failure) (wrap : Failure → Failure) (f : Factory)
    (arguments : List Value) : Build Value := do
  let s ← get
  match w.misfit? s.adopted f arguments with
  | some m => throw (misfit m)
  | none => wrapping wrap (w.make f arguments)

end ComponentAssembly

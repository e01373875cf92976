import ComponentAssembly.Build.State
import ComponentAssembly.Parameter.Naming

/-! Preparing and checking components once their parameters are applied. -/

namespace ComponentAssembly

open Build

/-- Reports a problem found in a component: the policy decides whether it is a failure, a log record
or nothing. -/
def Policy.report (p : Policy) (className problem : String) : Build Unit :=
  match p with
  | .ignore => pure ()
  | .info | .warn => emit (.logged p (className ++ ": " ++ problem))
  | .strict => throw (.problemFound className problem)

/-- Fails if a required setting is missing or blank. -/
def mustBeSet (name : String) (v : Value) : Except Failure Unit :=
  if v.isUnset then .error (.missingSetting name) else .ok ()

variable (w : World)

/-- Whether instances of a class are prepared and checked. -/
def World.isInitializable (c : ClassRef) : Bool :=
  w.countsAmong (.cls c) (w.classes.length + 2) (.predefined .initializable)

/-- Calls what stands in a slot of the lifecycle. -/
def callSlot {β : Type} (s : State) (body : β → Build Unit) : Slot β → Build Unit
  | .hidden => throw (.noCall (.notCallable (s.typeName .nothing)))
  | .constant v => throw (.noCall (.notCallable (s.typeName v)))
  | .body b => body b

/-- The body that prepares an instance with some settings. -/
def prepareBody (number : Nat) (settings : Value) (raises? : Option Raise) : Build Unit := do
  emit (.prepared number settings)
  raise raises? settings

/-- The body that checks an instance under a policy. -/
def checkBody (className : String) (number : Nat) (policy : Policy) (c : Check) : Build Unit := do
  emit (.checked number policy)
  raise c.raises? .nothing
  let s ← get
  ofExcept (c.required.forM fun name =>
    mustBeSet name (s.remembered (.object number) (setterName name)))
  match c.problem? with
  | none => pure ()
  | some problem => (c.policy?.getD policy).report className problem

/-- Calls the method that prepares an instance with some settings. -/
def World.prepare (c : ClassRef) (number : Nat) (settings : Value) : Build Unit := do
  let s ← get
  match w.member? c initializeName with
  | none => throw (.noAttribute c.name initializeName)
  | some (.preparation slot) => callSlot s (prepareBody number settings) slot
  | some _ => pure ()

/-- Calls the method that checks an instance under a policy. -/
def World.check (c : ClassRef) (number : Nat) (policy : Policy) : Build Unit := do
  let s ← get
  match w.member? c checkName with
  | none => throw (.noAttribute c.name checkName)
  | some (.check slot) => callSlot s (checkBody c.name number policy) slot
  | some _ => pure ()

/-- A failure of the lifecycle: one that says so itself, or one that was caused by another failure. -/
def lifecycleFailure (className : String) (f : Failure) : Failure :=
  if f.kind = .config .lifecycle then f else .initializationFailed className f

/-- Prepares a component without any settings and then checks it strictly, if its class has both
methods. -/
def World.activate (target : Value) : Build Unit := do
  let s ← get
  match s.classOf? target, target with
  | some c, .object number =>
    if w.isInitializable c then
      wrapping (lifecycleFailure c.name) do
        w.prepare c number (.map [])
        w.check c number .strict
    else pure ()
  | _, _ => pure ()

end ComponentAssembly

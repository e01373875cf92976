import ComponentAssembly.Failure.Message
import ComponentAssembly.Parameter.Settings

/-! What building changes: the instances made so far and the events that can be observed. -/

namespace ComponentAssembly

/-- An instance: its class, and the last value that each of its methods was set to. -/
structure Instance where
  ofClass : ClassRef
  settings : List (String × Value)
deriving Repr

/-- What can be observed of a build. -/
inductive Event where
  | constructed (className : String) (number : Nat) (first : Value)
  | called (function : String) (first : Value)
  | set (number? : Option Nat) (setter : String) (value : Value)
  | prepared (number : Nat) (settings : Value)
  | checked (number : Nat) (policy : Policy)
  | settingsHandled (number : Nat) (names : List String)
  | logged (policy : Policy) (text : String)
  | recorded (names : List String)
deriving Repr

/-- The instances in the order of their construction, the events in their order, and the constructors
that classes have taken over. -/
structure State where
  instances : List Instance
  trace : List Event
  adopted : Adoptions
deriving Repr

/-- Nothing built yet. -/
def State.empty : State := ⟨[], [], []⟩

/-- A step of building. One that fails leaves behind what it did before. -/
abbrev Build := ExceptT Failure (StateM State)

/-- The outcome of a step and the state that it leaves. -/
def Build.from {α : Type} (b : Build α) (s : State) : Except Failure α × State := StateT.run b s

namespace Build

/-- Writes an event. -/
def emit (e : Event) : Build Unit := modify fun s => { s with trace := s.trace ++ [e] }

/-- Gives another failure in place of the one that a step ends with. -/
def wrapping {α : Type} (wrap : Failure → Failure) (b : Build α) : Build α :=
  .mk (Except.mapError wrap <$> b.run)

/-- The outcome of a step as a value. -/
def outcome {α : Type} (b : Build α) : Build (Except Failure α) := .mk (Except.ok <$> b.run)

/-- Raises the error of a body whose first value is `v`, if it has one for it. -/
def raise (r? : Option Raise) (v : Value) : Build Unit :=
  match r? with
  | some r => if r.applies v then throw (.raised r.kind r.text r.identifier) else pure ()
  | none => pure ()

/-- Adds an instance; its number. -/
def allocate (c : ClassRef) : Build Nat :=
  modifyGet fun s => (s.instances.length, { s with instances := s.instances ++ [⟨c, []⟩] })

/-- Remembers what was taken over. -/
def adopt (adopted : Adoptions) : Build Unit := modify fun s => { s with adopted := adopted }

/-- Remembers the value that a method of an instance was set to. -/
def remember (number : Nat) (setter : String) (v : Value) : Build Unit :=
  modify fun s => { s with
    instances := s.instances.modify number fun i =>
      { i with settings := setEntry setter v i.settings } }

variable {α β : Type} {s : State}

@[simp] theorem from_pure {a : α} : Build.from (pure a) s = (.ok a, s) := rfl

@[simp] theorem from_throw {f : Failure} : Build.from (throw f : Build α) s = (.error f, s) := rfl

/-- A step that fails is not followed by another one, and the state it left remains. -/
theorem from_bind {b : Build α} {g : α → Build β} :
    Build.from (b >>= g) s = match b.from s with
      | (.ok a, t) => (g a).from t
      | (.error f, t) => (.error f, t) := by
  show (match b s with
    | (r, t) => ExceptT.bindCont g r t) = match b s with
      | (.ok a, t) => (g a) t
      | (.error f, t) => (.error f, t)
  rcases b s with ⟨r, t⟩
  cases r <;> rfl

@[simp] theorem from_get : Build.from get s = (.ok s, s) := rfl

@[simp] theorem from_emit {e : Event} :
    Build.from (emit e) s = (.ok (), { s with trace := s.trace ++ [e] }) := rfl

@[simp] theorem from_allocate {c : ClassRef} : Build.from (allocate c) s =
    (.ok s.instances.length, { s with instances := s.instances ++ [⟨c, []⟩] }) := rfl

@[simp] theorem from_ofExcept {r : Except Failure α} :
    Build.from (ofExcept r) s = (r, s) := by
  cases r <;> rfl

theorem from_wrapping {wrap : Failure → Failure} {b : Build α} :
    Build.from (wrapping wrap b) s = ((b.from s).1.mapError wrap, (b.from s).2) := rfl

theorem from_outcome {b : Build α} :
    Build.from (outcome b) s = (.ok (b.from s).1, (b.from s).2) := rfl

end Build

/-- The class of a value, if it is an instance of a class of the world or of one that every world
has. -/
def State.classOf? (s : State) : Value → Option ClassRef
  | .object number => s.instances[number]?.map Instance.ofClass
  | .plain c => some (.predefined c)
  | _ => none

/-- The name of the type of a value. -/
def State.typeName (s : State) (v : Value) : String :=
  match s.classOf? v with
  | some c => c.name
  | none => v.typeName?.getD "object"

/-- The type of a value as it is quoted inside messages. -/
def State.quotedType (s : State) (v : Value) : String :=
  match s.classOf? v with
  | some c => c.quoted
  | none => "<class '" ++ v.typeName?.getD "object" ++ "'>"

/-- The value that a method of an instance was last set to, or nothing. -/
def State.remembered (s : State) (v : Value) (setter : String) : Value :=
  match v with
  | .object number =>
    ((s.instances[number]?.bind fun i => i.settings.find? fun e => e.1 = setter).map (·.2)).getD
      .nothing
  | _ => .nothing

end ComponentAssembly

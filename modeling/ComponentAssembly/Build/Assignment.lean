import ComponentAssembly.Build.State
import ComponentAssembly.Parameter.Acceptance
import ComponentAssembly.Parameter.Conversion
import ComponentAssembly.Parameter.Naming
import ComponentAssembly.Parameter.Section
import ComponentAssembly.Text.Identifier

/-! Setting the parameters of components. -/

namespace ComponentAssembly

open Build

variable (w : World)

/-- The setter of a value under a name. -/
def World.setter? (s : State) (target : Value) (name : String) : Option Setter :=
  match (s.classOf? target).bind fun c => w.member? c name with
  | some (.setter m) => some m
  | _ => none

/-- The parameter through which a setter takes its value, if it can be called and its signature can
be read. Reading a property may fail, and then it counts as absent or the failure remains. -/
def Setter.usable? (m : Setter) : Except Failure (Option Param) :=
  match m.attachment with
  | .constant _ | .unreadable | .property none => .ok none
  | .property (some r) =>
    if r.applies .nothing && !r.kind.isAbsence then .error (.raised r.kind r.text r.identifier)
    else .ok none
  | .method | .static | .classwide | .callable => .ok (receiver? m.params)

/-- The setter for a parameter, with the parameter through which it takes its value. -/
def World.findSetter (s : State) (target : Value) (parameter : String) :
    Except Failure (Setter × Param) :=
  let name := setterName parameter
  let absent : Failure := .noSetter parameter name none (s.quotedType target)
  if !Text.isIdentifier name.toList then .error absent
  else
    match w.setter? s target name with
    | none => .error absent
    | some m =>
      match m.usable? with
      | .error f => .error f
      | .ok none => .error absent
      | .ok (some p) => .ok (m, p)

/-- The value that a setter gets for a parameter; none if it does not accept the shape. -/
def argument? (accepted : Acceptance) (parameter : String) :
    ShapedText → Option (Except Failure Value)
  | .scalar text => accepted.scalar?.map fun type => type.parseFor parameter text
  | .list items => if accepted.list then some (.ok (listValue items)) else none
  | .map entries => if accepted.map then some (.ok (mapValue entries)) else none

/-- The value that a setter gets for a parameter. -/
def argument (s : State) (target : Value) (parameter : String) (m : Setter) (p : Param)
    (value : ShapedText) : Except Failure Value :=
  (argument? (m.acceptance p) parameter value).getD
    (.error (.noSetter parameter m.name (some value.shape) (s.quotedType target)))

/-- The instance that a setter knows: only a method knows its own. -/
def Setter.instance? (m : Setter) (target : Value) : Option Nat :=
  match m.attachment, target with
  | .method, .object number => some number
  | _, _ => none

/-- The body of a setter. A method remembers the value that it does not refuse. -/
def callSetter (target : Value) (m : Setter) (v : Value) : Build Unit := do
  emit (.set (m.instance? target) m.name v)
  raise m.raises? v
  match m.instance? target with
  | some number => remember number m.name v
  | none => pure ()

/-- Sets a parameter of a component. -/
def World.assign (target : Value) (parameter : String) (value : ShapedText) : Build Unit := do
  let s ← get
  let (m, p) ← ofExcept (w.findSetter s target parameter)
  let v ← ofExcept (argument s target parameter m p value)
  wrapping (.setterFailed parameter m.name) (callSetter target m v)

/-- Refuses a value of none of the shapes once its setter is found. -/
def World.assignUnexpected (target : Value) (parameter : String) (v : Value) : Build Unit := do
  let s ← get
  let _ ← ofExcept (w.findSetter s target parameter)
  throw (.unexpectedValue v)

/-- Sets parameters in order until one fails, and records those set. -/
def World.assignAll (target : Value) :
    List Parameter → Settings → Build (Settings × Option Failure)
  | [], record => pure (record, none)
  | p :: rest, record => do
    match ← outcome (w.assign target p.name p.value) with
    | .error f => return (record, some f)
    | .ok () => assignAll target rest (record.add p.name)

/-- Sets the parameters of a section; all of them are read before the first one is set. The record
holds those set, also when there is a failure. -/
def World.assignSection (target : Value) (node : Markup.Element) (excluded? : Option String)
    (record : Settings) : Build (Settings × Option Failure) :=
  match parametersOf node excluded? with
  | .error f => pure (record, some f)
  | .ok params => w.assignAll target params record

/-- Sets the parameters of a section and gives the record of those set. -/
def World.assignOrFail (target : Value) (node : Markup.Element) (excluded? : Option String)
    (record : Settings) : Build Settings := do
  match ← w.assignSection target node excluded? record with
  | (record, none) => return record
  | (_, some f) => throw f

end ComponentAssembly

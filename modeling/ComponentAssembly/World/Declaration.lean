import ComponentAssembly.ErrorKind
import ComponentAssembly.World.Signature

/-! What a world declares: classes, functions, values and modules that fail. -/

namespace ComponentAssembly

/-- How strictly a problem found in a component is taken. -/
inductive Policy where
  | ignore
  | info
  | warn
  | strict
deriving Repr, DecidableEq

namespace Policy

/-- The policy where none is chosen. -/
def standard : Policy := warn

/-- The name of a policy. -/
def name : Policy → String
  | ignore => "IGNORE"
  | info => "INFO"
  | warn => "WARN"
  | strict => "THROW"

/-- A policy as it is quoted inside messages. -/
def quoted (p : Policy) : String := "InitializableProblemHandler." ++ p.name

/-- The policy that a name chooses. -/
def ofName? (name : String) : Option Policy :=
  if name = "DEFAULT" then some standard
  else [ignore, info, warn, strict].find? fun p => p.name = name

end Policy

/-- An error that a body raises: always, or only when its first value is a given one. -/
structure Raise where
  kind : ErrorKind
  text : String
  identifier : Option String
  only? : Option Value
deriving Repr

/-- Whether a body raises when its first value is this one. -/
def Raise.applies (r : Raise) (v : Value) : Bool :=
  match r.only? with
  | none => true
  | some trigger => trigger.same v

/-- How a setter is attached to its class. -/
inductive Attachment where
  | method
  | static
  | classwide
  | callable
  | unreadable
  | constant (v : Value)
  | property (raises? : Option Raise)
deriving Repr

/-- A setter: an attribute of a class through which a parameter is set. -/
structure Setter where
  name : String
  attachment : Attachment
  params : List Param
  returns? : Option TypeExpr
  raises? : Option Raise
deriving Repr

/-- What stands under a name of the lifecycle: nothing that hides an inherited member, a plain value
or a body. -/
inductive Slot (β : Type) where
  | hidden
  | constant (v : Value)
  | body (b : β)
deriving Repr

/-- What checking a component does. -/
structure Check where
  raises? : Option Raise
  required : List String
  problem? : Option String
  policy? : Option Policy
deriving Repr

/-- What constructing an instance does. -/
structure Constructor where
  params : List Param
  raises? : Option Raise
deriving Repr

/-- What makes a class a protocol: members that are no methods, and whether other classes may be
checked against it. -/
structure Protocol where
  data : List String
  checkable : Bool
deriving Repr

/-- A class. Without bases it descends from the root alone and may have abstract methods. -/
structure ClassDecl where
  name : DottedName
  bases : List ClassRef
  methods : List String
  abstractMethods : List String
  registeredWith : List ClassRef
  constructor? : Option Constructor
  setters : List Setter
  preparation? : Option (Slot (Option Raise))
  check? : Option (Slot Check)
  settingsHook? : Option (Option Raise)
  unreadable : Bool
  protocol? : Option Protocol
deriving Repr

/-- What a function gives when its body is through: a new instance of a class, or a value that is
none. -/
inductive Outcome where
  | creates (c : ClassRef) (passing : Bool)
  | gives (v : PlainValue)
deriving Repr

/-- A function that can serve as a factory. -/
structure FunctionDecl where
  name : DottedName
  params : List Param
  returns? : Option TypeExpr
  raises? : Option Raise
  outcome : Outcome
deriving Repr

/-- What a configuration can refer to. -/
structure World where
  classes : List ClassDecl
  functions : List FunctionDecl
  values : List (DottedName × Value)
  brokenModules : List (String × Raise)
deriving Repr

namespace World

/-- The declaration of a class; of two with one name the later one counts. -/
def classDecl? (w : World) (n : DottedName) : Option ClassDecl :=
  w.classes.reverse.find? fun d => d.name = n

/-- The declaration of a function; of two with one name the later one counts. -/
def functionDecl? (w : World) (n : DottedName) : Option FunctionDecl :=
  w.functions.reverse.find? fun d => d.name = n

/-- A value by its name; of two with one name the later one counts. -/
def value? (w : World) (n : DottedName) : Option Value :=
  (w.values.reverse.find? fun d => d.1 = n).map (·.2)

end World

end ComponentAssembly

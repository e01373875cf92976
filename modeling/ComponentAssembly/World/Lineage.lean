import ComponentAssembly.World.Declaration

/-! The ancestors of a class in the order in which they are asked, and what a class inherits. -/

namespace ComponentAssembly

/-- What stands under a name in a class. -/
inductive Member where
  | setter (s : Setter)
  | preparation (s : Slot (Option Raise))
  | check (s : Slot Check)
  | settingsHook (raises? : Option Raise)
  | method
  | abstractMethod
  | data
deriving Repr

namespace Member

/-- Whether a slot holds nothing, which counts as not having the member. -/
def slotIsVoid {β : Type} : Slot β → Bool
  | .hidden => true
  | .constant .nothing => true
  | _ => false

/-- Whether a name is there but holds nothing. -/
def isVoid : Member → Bool
  | .setter s => match s.attachment with
    | .constant .nothing => true
    | _ => false
  | .preparation s => slotIsVoid s
  | .check s => slotIsVoid s
  | _ => false

/-- Whether a slot holds a body. -/
def slotIsBody {β : Type} : Slot β → Bool
  | .body _ => true
  | _ => false

/-- Whether what stands under a name in a class can be called. -/
def isCallable : Member → Bool
  | .setter s => match s.attachment with
    | .constant _ | .property _ => false
    | .method | .static | .classwide | .callable | .unreadable => true
  | .preparation s => slotIsBody s
  | .check s => slotIsBody s
  | .settingsHook _ | .method | .abstractMethod => true
  | .data => false

/-- Whether a member still has to be written by a descendant. -/
def isAbstract : Member → Bool
  | .abstractMethod => true
  | _ => false

end Member

/-- The name of the method that prepares a component. -/
def initializeName : String := "initialize"

/-- The name of the method that checks a component. -/
def checkName : String := "check_initialization"

/-- The name of the method by which a component sets itself up. -/
def setUpName : String := "configure"

/-- The name of the method that is told which settings were made. -/
def settingsHookName : String := "handle_settings"

/-- The setter of that name in a class; of two with one name the later one counts. -/
def ClassDecl.setter? (d : ClassDecl) (name : String) : Option Setter :=
  d.setters.reverse.find? fun s => s.name = name

/-- What a class itself holds under a name. -/
def ClassDecl.member? (d : ClassDecl) (name : String) : Option Member :=
  (d.setter? name).map .setter
  <|> (if name = initializeName then d.preparation?.map .preparation else none)
  <|> (if name = checkName then d.check?.map .check else none)
  <|> (if name = settingsHookName then d.settingsHook?.map .settingsHook else none)
  <|> (if name ∈ d.methods then some .method else none)
  <|> (if name ∈ d.abstractMethods then some .abstractMethod else none)
  <|> (if name ∈ (d.protocol?.map Protocol.data).getD [] then some .data else none)

/-- The names under which a class itself holds something. -/
def ClassDecl.memberNames (d : ClassDecl) : List String :=
  d.setters.map Setter.name
    ++ d.preparation?.toList.map (fun _ => initializeName)
    ++ d.check?.toList.map (fun _ => checkName)
    ++ d.settingsHook?.toList.map (fun _ => settingsHookName)
    ++ d.methods ++ d.abstractMethods ++ (d.protocol?.map Protocol.data).getD []

/-- The methods of the classes that every world has. -/
def Predefined.methods : Predefined → List String
  | .root => []
  | .configurable => [setUpName, settingsHookName]
  | .initializable => [initializeName, checkName]

/-- The first class that comes after no other one in these rows. -/
def nextInRows? (rows : List (List ClassRef)) : Option ClassRef :=
  rows.findSome? fun row => row.head?.filter fun c => rows.all fun r => !r.tail.contains c

/-- The classes whose constructors other classes have taken over, under the names of these. -/
abbrev Adoptions := List (DottedName × ClassRef)

/-- Merges rows of classes so that the order within each row is kept, for at most so many classes. -/
def mergeRows : Nat → List (List ClassRef) → List ClassRef
  | 0, _ => []
  | count + 1, rows =>
    match nextInRows? rows with
    | none => []
    | some c => c :: mergeRows count (rows.map fun r => if r.head? = some c then r.tail else r)

/-- The line of a class in a table of those that are known; any other class stands alone. -/
def lineageIn (table : List (DottedName × List ClassRef)) : ClassRef → List ClassRef
  | .own n => ((table.find? fun row => row.1 = n).map (·.2)).getD [.own n]
  | c => [c]

namespace World

variable (w : World)

/-- The lines of all classes, computed in the order of declaration. -/
def lineages : List (DottedName × List ClassRef) :=
  w.classes.foldl (fun table d =>
    let rows := d.bases.map (lineageIn table) ++ [d.bases]
    (d.name, .own d.name :: mergeRows rows.flatten.length rows) :: table) []

/-- A class and its ancestors, each before its own ancestors; the root is left out. -/
def lineage (c : ClassRef) : List ClassRef := lineageIn w.lineages c

/-- What a class itself holds under a name. -/
def ownMember? (name : String) : ClassRef → Option Member
  | .own n => (w.classDecl? n).bind fun d => d.member? name
  | .predefined c => if name ∈ c.methods then some .method else none

/-- What a class holds under a name: its own member or the nearest inherited one. -/
def member? (c : ClassRef) (name : String) : Option Member :=
  (w.lineage c).findSome? (w.ownMember? name)

/-- The declarations of a class and its ancestors, the nearest first. -/
def declarations (c : ClassRef) : List ClassDecl :=
  (w.lineage c).filterMap fun
    | .own n => w.classDecl? n
    | .predefined _ => none

/-- Whether a constructor's signature cannot be read. -/
def isUnreadable (c : ClassRef) : Bool := (w.declarations c).any ClassDecl.unreadable

/-- Whether a class is itself a protocol. -/
def protocol? : ClassRef → Option Protocol
  | .own n => (w.classDecl? n).bind ClassDecl.protocol?
  | .predefined .initializable => some ⟨[], true⟩
  | .predefined _ => none

/-- The constructor that a class declares. -/
def ownConstructor? : ClassRef → Option Constructor
  | .own n => (w.classDecl? n).bind ClassDecl.constructor?
  | .predefined _ => none

/-- The class whose constructor a class has got: another one that it has taken it over from, or
itself. -/
def constructorHolder? (adopted : Adoptions) : ClassRef → Option ClassRef
  | .own n =>
    (adopted.find? fun e => e.1 = n).map (·.2)
      <|> (w.ownConstructor? (.own n)).map fun _ => .own n
  | .predefined _ => none

/-- Whether a protocol has a stand-in instead of a constructor: it declares none and, when it is
declared, inherits neither a constructor nor a stand-in. -/
def hasStandIn (c : ClassRef) : Bool :=
  (w.protocol? c).isSome && (w.ownConstructor? c).isNone &&
    (w.lineage c).tail.all fun b => (w.protocol? b).isNone && (w.ownConstructor? b).isNone

/-- The class whose constructor makes the instances of a class: its own or the nearest inherited one,
whatever stand-ins come before. The root has the one without parameters. -/
def constructorSource (adopted : Adoptions) (c : ClassRef) : ClassRef :=
  ((w.lineage c).findSome? (w.constructorHolder? adopted)).getD .root

/-- The constructor that makes the instances of a class. -/
def constructor (adopted : Adoptions) (c : ClassRef) : Constructor :=
  (w.ownConstructor? (w.constructorSource adopted c)).getD ⟨[], none⟩

/-- Whether a class comes upon a stand-in before any constructor. -/
def awaitsConstructor (adopted : Adoptions) (c : ClassRef) : Bool :=
  ((w.lineage c).find? fun b => (w.constructorHolder? adopted b).isSome || w.hasStandIn b).any
    fun b => (w.constructorHolder? adopted b).isNone

/-- What was taken over once an instance of a class is made: a class that comes upon a stand-in takes
over the constructor that makes its instances. -/
def adopting (adopted : Adoptions) (n : DottedName) : Adoptions :=
  if w.awaitsConstructor adopted (.own n) then (n, w.constructorSource adopted (.own n)) :: adopted
  else adopted

/-- Whether other classes can be counted among the descendants of a class without being such, and
abstract methods keep it from being constructed. -/
def isOpen (c : ClassRef) : Bool :=
  (w.lineage c).contains (.predefined .initializable) ||
    (w.declarations c).any fun d => d.bases.isEmpty || d.protocol?.isSome

/-- The methods that a class itself leaves to its descendants, if it can. -/
def ownAbstractMethods : ClassRef → List String
  | .own n =>
    if w.isOpen (.own n) then ((w.classDecl? n).map ClassDecl.abstractMethods).getD [] else []
  | .predefined _ => []

/-- The names of the methods that a class still has to write. -/
def unwrittenNames (c : ClassRef) : List String :=
  ((w.lineage c).flatMap w.ownAbstractMethods).eraseDups.filter fun name =>
    ((w.member? c name).map Member.isAbstract).getD false

/-- These names sorted. -/
def abstractNames (c : ClassRef) : List String :=
  (w.unwrittenNames c).mergeSort fun a b => decide (a ≤ b)

end World

end ComponentAssembly

import ComponentAssembly.World.Lineage

/-! What can be required of a class, and whether a class provides it. -/

namespace ComponentAssembly

/-- What is known beforehand of the instances that a factory gives: their class, that their class is
none of the world's, a type that is no class at all, or no more than the function itself. -/
inductive Provided where
  | cls (c : ClassRef)
  | foreignClass
  | noClass
  | function (name : DottedName)
deriving Repr, DecidableEq

/-- A requirement on a class: to descend from a class or from one of several, which are given in a
row or as a choice. A plain value is no requirement that can be checked. -/
inductive Capability where
  | cls (c : ClassRef)
  | anyOf (cs : List ClassRef)
  | choice (cs : List ClassRef)
  | value (v : Value)
deriving Repr

namespace Capability

/-- The choice between some classes; between one class and itself there is none. -/
def ofChoice (cs : List ClassRef) : Capability :=
  match cs.eraseDups with
  | [c] => .cls c
  | cs => .choice cs

/-- A choice between classes as it is quoted inside messages. -/
def choiceText (cs : List ClassRef) : String := " | ".intercalate (cs.map ClassRef.text)

/-- A requirement as it is quoted inside messages. -/
def quoted : Capability → String
  | .cls c => c.quoted
  | .anyOf [c] => "(" ++ c.quoted ++ ",)"
  | .anyOf cs => "(" ++ ", ".intercalate (cs.map ClassRef.quoted) ++ ")"
  | .choice cs => choiceText cs
  | .value v => v.quoted

/-- A requirement as it is named where it is not met. -/
def text : Capability → String
  | .cls c => c.text
  | .choice cs => "types." ++ choiceText cs
  | c => c.quoted

end Capability

namespace World

variable (w : World)

/-- Whether a class bears a name with something in it. -/
def bears (c : ClassRef) (name : String) : Bool :=
  ((w.member? c name).map fun m => !m.isVoid).getD false

/-- The names that a protocol asks for: all that it or an ancestor declares, constructors apart. -/
def protocolNames (c : ClassRef) : List String :=
  (w.lineage c).flatMap fun
    | .own n => ((w.classDecl? n).map ClassDecl.memberNames).getD []
    | .predefined p => p.methods

/-- Whether a class is a protocol against which no class can be checked: neither it nor an ancestor
allows that, or it asks for a member that cannot be called. -/
def isUncheckable (c : ClassRef) : Bool :=
  (w.protocol? c).isSome &&
    (!((w.lineage c).any fun b => (w.protocol? b).any Protocol.checkable)
      || !((w.protocolNames c).all fun name => (w.member? c name).any Member.isCallable))

/-- Whether a class bears all names that a protocol asks for. -/
def conforms (provided : Provided) (c : ClassRef) : Bool :=
  (w.protocol? c).isSome && !w.isUncheckable c &&
    (w.protocolNames c).all fun name =>
      match provided with
      | .cls p => w.bears p name
      | _ => false

/-- The classes that name another one as their base or are registered with it. Registering a class
that conforms already has no effect. -/
def linked (c : ClassRef) : List ClassRef :=
  (w.classes.filter fun d => d.bases.contains c
    || d.registeredWith.contains c && !w.conforms (.cls (.own d.name)) c).map fun d => .own d.name

/-- Whether a class counts among the descendants of another one: it is one, it conforms to a protocol,
or it counts among the descendants of a class linked to it, over at most so many links. -/
def countsAmong (provided : Provided) : Nat → ClassRef → Bool
  | 0, _ => false
  | links + 1, c =>
    c = .root
    || (match provided with
      | .cls p => (w.lineage p).contains c
      | _ => false)
    || (w.isOpen c && (w.conforms provided c || (w.linked c).any (countsAmong provided links)))

/-- Whether a class descends from another one, if that can be told. -/
def descends? (provided : Provided) (c : ClassRef) : Option Bool :=
  if w.isUncheckable c then none else some (w.countsAmong provided (w.classes.length + 2) c)

/-- Whether a class descends from one of several, which are tried in order until one cannot be told. -/
def descendsFromAny? (provided : Provided) : List ClassRef → Option Bool
  | [] => some false
  | c :: cs =>
    match w.descends? provided c with
    | some false => descendsFromAny? provided cs
    | answer => answer

/-- Whether what a factory provides meets a requirement, if that can be told. The root is required of
nothing, a class provides itself, and what is no class meets no other requirement. -/
def meets? (provided : Provided) (required : Capability) : Option Bool :=
  match required, provided with
  | .cls (.predefined .root), _ => some true
  | .cls c, .cls p => if p = c then some true else w.descends? provided c
  | _, .noClass | _, .function _ => some false
  | .cls c, _ => w.descends? provided c
  | .anyOf cs, _ => w.descendsFromAny? provided cs
  | .choice cs, _ => w.descendsFromAny? provided cs
  | .value _, _ => none

end World

end ComponentAssembly

import ComponentAssembly.World.Declaration

/-! Which shapes of parameters a setter accepts, by the type that it states for its value. -/

namespace ComponentAssembly

/-- The names of the types that lists belong to. -/
def listTypeNames : List String := [
  "list", "abc.Sequence", "abc.MutableSequence", "abc.Collection", "abc.Iterable",
  "typing.List", "typing.Sequence", "typing.MutableSequence", "typing.Collection",
  "typing.Iterable"]

/-- The names of the types that maps belong to. -/
def mapTypeNames : List String := [
  "dict", "collections.OrderedDict", "abc.Mapping", "abc.MutableMapping",
  "typing.Dict", "typing.OrderedDict", "typing.Mapping", "typing.MutableMapping"]

namespace TypeExpr

/-- Whether a type allows any value. -/
def isUntyped : TypeExpr → Bool
  | .anything => true
  | .instanceOf (.predefined .root) => true
  | _ => false

/-- Whether a type is text. -/
def isText : TypeExpr → Bool
  | .scalar .text => true
  | _ => false

/-- Whether a type is that of lists, with text as the only items it may name. -/
def isListType : TypeExpr → Bool
  | .bare name => name ∈ listTypeNames
  | .applied name arguments =>
    name ∈ listTypeNames && (arguments.isEmpty || arguments.length = 1 && arguments.all isText)
  | _ => false

/-- Whether a type is that of maps, with text as the only keys and items it may name. -/
def isMapType : TypeExpr → Bool
  | .bare name => name ∈ mapTypeNames
  | .applied name arguments =>
    name ∈ mapTypeNames && (arguments.isEmpty || arguments.length = 2 && arguments.all isText)
  | _ => false

/-- Whether a type is this scalar type. -/
def isScalar (t : ScalarType) : TypeExpr → Bool
  | .scalar s => s = t
  | _ => false

end TypeExpr

/-- What a setter accepts: whether lists and maps, and what text is converted to. -/
structure Acceptance where
  list : Bool
  map : Bool
  scalar? : Option ScalarType
deriving Repr, DecidableEq

/-- What was found so far while a type is gone through: whether it allows any value, lists or maps, and
the other types in it. -/
structure Shapes where
  untyped : Bool
  list : Bool
  map : Bool
  others : List TypeExpr
deriving Repr

namespace Shapes

/-- Nothing found yet. -/
def empty : Shapes := ⟨false, false, false, []⟩

/-- Adds a type that is no choice. -/
def addLeaf (s : Shapes) (t : TypeExpr) : Shapes :=
  if t.isUntyped then { s with untyped := true }
  else if t.isListType then { s with list := true }
  else if t.isMapType then { s with map := true }
  else { s with others := t :: s.others }

mutual

/-- Goes through a type: a choice by its members, and past notes. -/
def add (s : Shapes) : TypeExpr → Shapes
  | .oneOf members => s.addMembers members
  | .annotated t _ => s.add t
  | t => s.addLeaf t

/-- Goes through the members of a choice but for that of nothing. -/
def addMembers (s : Shapes) : List TypeExpr → Shapes
  | [] => s
  | .nothing :: ts => s.addMembers ts
  | t :: ts => (s.add t).addMembers ts

end

/-- What text is converted to. Where any value may be given, it is left as it is; else it becomes the
most preferred scalar type that was found. -/
def scalar? (s : Shapes) : Option ScalarType :=
  if s.untyped then some .text
  else ScalarType.all.find? fun t => s.others.any (TypeExpr.isScalar t)

/-- What is accepted by what was found. -/
def acceptance (s : Shapes) : Acceptance := ⟨s.untyped || s.list, s.untyped || s.map, s.scalar?⟩

end Shapes

/-- What is accepted where no type is stated. -/
def Acceptance.all : Acceptance := ⟨true, true, some .text⟩

namespace Setter

/-- The types that a setter states for its parameters and its result. -/
def statedTypes (s : Setter) : List TypeExpr := s.params.filterMap Param.type? ++ s.returns?.toList

/-- Whether the quoted types of a setter can be looked up: not those of a callable object, and either
all types of a method or none. -/
def typesKnown (s : Setter) : Bool :=
  match s.attachment with
  | .callable => false
  | _ => (TypeExpr.unknownNamesOf s.statedTypes).isEmpty

/-- The type that a setter states for a parameter as far as it is known. -/
def knownType? (s : Setter) (p : Param) : Option TypeExpr :=
  match p.type?, s.typesKnown with
  | some (.quoted _), false => none
  | some (.forward _), false => none
  | some t, known => some (t.normal known)
  | none, _ => none

/-- What a setter accepts through a parameter. -/
def acceptance (s : Setter) (p : Param) : Acceptance :=
  match s.knownType? p with
  | none => .all
  | some t => (Shapes.empty.add t).acceptance

end Setter

end ComponentAssembly

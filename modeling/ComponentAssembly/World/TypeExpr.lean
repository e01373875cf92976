import ComponentAssembly.World.Value

/-! Names of classes, and the types that signatures state for parameters and results. -/

namespace ComponentAssembly

/-- The full name of a class, function or value: its module and its own name. -/
structure DottedName where
  module : String
  name : String
deriving Repr, DecidableEq

/-- A full name as one text. -/
def DottedName.text (n : DottedName) : String := n.module ++ "." ++ n.name

/-- A class: one that a world declares, or one that every world has. -/
inductive ClassRef where
  | own (name : DottedName)
  | predefined (c : Predefined)
deriving Repr, DecidableEq

/-- The class that all others descend from. -/
abbrev ClassRef.root : ClassRef := .predefined .root

/-- The own name of a class. -/
def ClassRef.name : ClassRef → String
  | .own n => n.name
  | .predefined .root => "object"
  | .predefined .configurable => "ConfigBase"
  | .predefined .initializable => "Initializable"

/-- The full name of a class; the root has none but its own. -/
def ClassRef.text : ClassRef → String
  | .own n => n.text
  | .predefined .root => "object"
  | .predefined .configurable => "wirework.config_base.ConfigBase"
  | .predefined .initializable => "wirework.lifecycle.Initializable"

/-- A class as it is quoted inside messages. -/
def ClassRef.quoted (c : ClassRef) : String := "<class '" ++ c.text ++ "'>"

/-- The types that the text of a parameter can be converted to. -/
inductive ScalarType where
  | text
  | flag
  | integer
  | narrowInteger
  | real
  | narrowReal
deriving Repr, DecidableEq

namespace ScalarType

/-- All scalar types, the most preferred one first. -/
def all : List ScalarType := [text, flag, integer, narrowInteger, real, narrowReal]

/-- The name under which a scalar type is shown. -/
def name : ScalarType → String
  | text => "str"
  | flag => "bool"
  | integer => "int"
  | narrowInteger => "Int32"
  | real => "float"
  | narrowReal => "Float32"

/-- The scalar type that a name shows. -/
def ofName? (name : String) : Option ScalarType := all.find? fun t => t.name = name

/-- Whether a type narrows another one and is no class of its own. -/
def isMarker : ScalarType → Bool
  | narrowInteger | narrowReal => true
  | _ => false

end ScalarType

/-- A type as a signature writes it. What stands in quotes has to be looked up before it is known.
There `quoted` is what stands for a type, and `forward` is any text that names nothing, so that looking
it up fails because that name is not defined. Two kinds of annotation are no types and cannot be
written: a text in quotes that cannot be evaluated for another reason, and a value that cannot be
compared by its hash. -/
inductive TypeExpr where
  | scalar (t : ScalarType)
  | anything
  | nothing
  | instanceOf (c : ClassRef)
  | bare (name : String)
  | applied (name : String) (arguments : List TypeExpr)
  | oneOf (members : List TypeExpr)
  | annotated (t : TypeExpr) (note : String)
  | quoted (t : TypeExpr)
  | forward (name : String)
deriving Repr, Inhabited

namespace TypeExpr

/-- A type or nothing. -/
def optional (t : TypeExpr) : TypeExpr := .oneOf [t, .nothing]

mutual

/-- Whether two types are written the same. -/
def same : TypeExpr → TypeExpr → Bool
  | .scalar a, .scalar b => a = b
  | .anything, .anything => true
  | .nothing, .nothing => true
  | .instanceOf a, .instanceOf b => a = b
  | .bare a, .bare b => a = b
  | .applied a as, .applied b bs => a = b && sameTypes as bs
  | .oneOf as, .oneOf bs => sameTypes as bs
  | .annotated a m, .annotated b n => a.same b && m = n
  | .quoted a, .quoted b => a.same b
  | .forward a, .forward b => a = b
  | _, _ => false

/-- Whether two rows of types are written the same. -/
def sameTypes : List TypeExpr → List TypeExpr → Bool
  | [], [] => true
  | a :: as, b :: bs => a.same b && sameTypes as bs
  | _, _ => false

end

mutual

/-- The names inside a type that nothing bears, from left to right. -/
def unknownNames : TypeExpr → List String
  | .forward name => [name]
  | .applied _ arguments => unknownNamesOf arguments
  | .oneOf members => unknownNamesOf members
  | .annotated t _ => t.unknownNames
  | .quoted t => t.unknownNames
  | _ => []

/-- The names inside a row of types that nothing bears. -/
def unknownNamesOf : List TypeExpr → List String
  | [] => []
  | t :: ts => t.unknownNames ++ unknownNamesOf ts

end

/-- The members of a type that is a choice, and any other type alone. -/
def alternatives : TypeExpr → List TypeExpr
  | .oneOf members => members
  | t => [t]

/-- Puts a type in front unless it is there already. -/
def insertNew (t : TypeExpr) (ts : List TypeExpr) : List TypeExpr :=
  if ts.any t.same then ts else t :: ts

/-- A choice between types; between one type and itself there is none. -/
def choice (members : List TypeExpr) : TypeExpr :=
  match members.foldr insertNew [] with
  | [t] => t
  | members => .oneOf members

mutual

/-- A type with the quoted parts looked up if they can be, and without choices inside choices or
among equal types. -/
def normal (known : Bool) : TypeExpr → TypeExpr
  | .applied name arguments => .applied name (normals known arguments)
  | .oneOf members => choice ((normals known members).flatMap alternatives)
  | .annotated t note => .annotated (t.normal known) note
  | .quoted t => if known then t.normal known else .quoted t
  | t => t

/-- The normal forms of a row of types. -/
def normals (known : Bool) : List TypeExpr → List TypeExpr
  | [] => []
  | t :: ts => t.normal known :: normals known ts

end

mutual

/-- A type without the notes on it. -/
def withoutNotes : TypeExpr → TypeExpr
  | .applied name arguments => .applied name (allWithoutNotes arguments)
  | .oneOf members => .oneOf (allWithoutNotes members)
  | .annotated t _ => t.withoutNotes
  | .quoted t => .quoted t.withoutNotes
  | t => t

/-- A row of types without the notes on them. -/
def allWithoutNotes : List TypeExpr → List TypeExpr
  | [] => []
  | t :: ts => t.withoutNotes :: allWithoutNotes ts

end

end TypeExpr

end ComponentAssembly

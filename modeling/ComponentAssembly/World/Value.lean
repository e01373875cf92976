import ComponentAssembly.Numeral.Shortest
import ComponentAssembly.Text.Blank
import ComponentAssembly.Text.Quoted

/-! The values that constructors, factories and setters receive and give. -/

namespace ComponentAssembly

open Numeral Text

/-- A class that every world has. -/
inductive Predefined where
  | root
  | configurable
  | initializable
deriving Repr, DecidableEq

/-- A value. Instances of a world's own classes are numbered in the order of their construction;
those of the predefined classes have no state. -/
inductive Value where
  | nothing
  | flag (b : Bool)
  | integer (n : Int)
  | real (b : Binary)
  | text (s : String)
  | list (items : List Value)
  | tuple (items : List Value)
  | map (entries : List (String × Value))
  | object (number : Nat)
  | plain (c : Predefined)
deriving Repr, Inhabited

mutual

/-- Whether two values are the same. -/
def Value.same : Value → Value → Bool
  | .nothing, .nothing => true
  | .flag a, .flag b => a = b
  | .integer a, .integer b => a = b
  | .real a, .real b => a = b
  | .text a, .text b => a = b
  | .list a, .list b => sameItems a b
  | .tuple a, .tuple b => sameItems a b
  | .map a, .map b => sameEntries a b
  | .object a, .object b => a = b
  | .plain a, .plain b => a = b
  | _, _ => false

/-- Whether two rows of values are the same. -/
def sameItems : List Value → List Value → Bool
  | [], [] => true
  | a :: as, b :: bs => a.same b && sameItems as bs
  | _, _ => false

/-- Whether two maps have the same entries in the same order. -/
def sameEntries : List (String × Value) → List (String × Value) → Bool
  | [], [] => true
  | (j, a) :: as, (k, b) :: bs => j = k && a.same b && sameEntries as bs
  | _, _ => false

end

mutual

/-- A value as it is quoted inside messages. -/
def Value.quoted : Value → String
  | .nothing => "None"
  | .flag b => if b then "True" else "False"
  | .integer n => toString n
  | .real b => b.text
  | .text s => Text.quoted s
  | .list items => "[" ++ ", ".intercalate (quotedItems items) ++ "]"
  | .tuple [item] => "(" ++ item.quoted ++ ",)"
  | .tuple items => "(" ++ ", ".intercalate (quotedItems items) ++ ")"
  | .map entries => "\x7b" ++ ", ".intercalate (quotedEntries entries) ++ "\x7d"
  | .object number => "object " ++ toString number
  | .plain _ => "object"

/-- Values in a row as they are quoted inside messages. -/
def quotedItems : List Value → List String
  | [] => []
  | item :: items => item.quoted :: quotedItems items

/-- The entries of a map as they are quoted inside messages. -/
def quotedEntries : List (String × Value) → List String
  | [] => []
  | (key, value) :: entries => (Text.quoted key ++ ": " ++ value.quoted) :: quotedEntries entries

end

/-- A value as it is printed: text without quotes. -/
def Value.shown : Value → String
  | .text s => s
  | v => v.quoted

/-- The name of the type of a value that is no instance of a class of the world. -/
def Value.typeName? : Value → Option String
  | .nothing => some "NoneType"
  | .flag _ => some "bool"
  | .integer _ => some "int"
  | .real _ => some "float"
  | .text _ => some "str"
  | .list _ => some "list"
  | .tuple _ => some "tuple"
  | .map _ => some "dict"
  | .object _ => none
  | .plain _ => none

/-- Whether a value is no instance of one of a world's own classes. -/
def Value.isPlain : Value → Bool
  | .object _ => false
  | _ => true

/-- A value that is no instance of one of a world's own classes. -/
structure PlainValue where
  value : Value
  plain : value.isPlain = true
deriving Repr

/-- A value as a plain one; an instance becomes nothing. -/
def PlainValue.ofValue (v : Value) : PlainValue :=
  if h : v.isPlain = true then ⟨v, h⟩ else ⟨.nothing, rfl⟩

/-- Whether a setting with this value counts as missing. -/
def Value.isUnset : Value → Bool
  | .nothing => true
  | .text s => isBlankText s
  | _ => false

end ComponentAssembly

import ComponentAssembly.World.Value

/-! Parameters as a document gives them: texts in one of three shapes. -/

namespace ComponentAssembly

/-- The shapes a parameter can have. -/
inductive Shape where
  | scalar
  | list
  | map
deriving Repr, DecidableEq

/-- A parameter's value: one text, texts in order, or texts under distinct keys in order. -/
inductive ShapedText where
  | scalar (text : String)
  | list (items : List String)
  | map (entries : List (String × String))
deriving Repr, DecidableEq

/-- A parameter of a section. -/
structure Parameter where
  name : String
  value : ShapedText
deriving Repr, DecidableEq

/-- The shape of a parameter's value. -/
def ShapedText.shape : ShapedText → Shape
  | .scalar _ => .scalar
  | .list _ => .list
  | .map _ => .map

/-- Sets what stands under a key: in its place if the key is there, else at the end. -/
def setEntry {α : Type} (key : String) (a : α) : List (String × α) → List (String × α)
  | [] => [(key, a)]
  | (k, b) :: rest => if k = key then (k, a) :: rest else (k, b) :: setEntry key a rest

/-- Entries with distinct keys: each key at its first place with its last text. -/
def entriesOf (pairs : List (String × String)) : List (String × String) :=
  pairs.foldl (fun entries pair => setEntry pair.1 pair.2 entries) []

/-- Texts as a list value. -/
def listValue (items : List String) : Value := .list (items.map .text)

/-- Texts under keys as a map value. -/
def mapValue (entries : List (String × String)) : Value :=
  .map (entries.map fun e => (e.1, .text e.2))

end ComponentAssembly

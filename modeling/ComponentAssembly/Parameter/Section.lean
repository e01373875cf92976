import ComponentAssembly.Failure
import ComponentAssembly.Markup.Element
import ComponentAssembly.Parameter.Shape
import ComponentAssembly.Text.Blank

/-! Reading the class and the parameters of a section. The children of a parameter decide its shape:
without any it is a text, with keys and values it is a map, else it is a list. -/

namespace ComponentAssembly

open Markup Text

/-- The class that a section names. -/
def statedClass (node : Element) : Except Failure String :=
  let identifier := trim ((node.attribute? "class").getD "")
  if identifier.isEmpty then .error (.document (.missingClass node.localName)) else .ok identifier

/-- The first child of a section that holds parameters. -/
def parameterList? (node : Element) : Option Element := (node.childrenNamed "params").head?

/-- The key that a child gives to its entry. -/
def entryKey? (node : Element) : Option String := node.attribute? "from" <|> node.attribute? "key"

/-- The text that a child gives to its entry. -/
def entryText? (node : Element) : Option String := node.attribute? "to" <|> node.attribute? "value"

/-- Whether a child gives both parts of an entry. -/
def isEntry (node : Element) : Bool := (entryKey? node).isSome && (entryText? node).isSome

/-- The entry that a child of a map gives. -/
def entry (parameter : String) (node : Element) : Except Failure (String × String) :=
  match entryKey? node, entryText? node with
  | none, _ => .error (.document (.entryWithoutKey parameter))
  | some _, none => .error (.document (.entryWithoutValue parameter))
  | some key, some text => .ok (key, text)

/-- The value of a parameter. -/
def ShapedText.ofElement (node : Element) : Except Failure ShapedText :=
  let children := node.children
  if children.isEmpty then .ok (.scalar node.fullText)
  else if children.any isEntry then
    (children.mapM (entry node.localName)).map fun pairs => .map (entriesOf pairs)
  else .ok (.list ((children.map Element.fullText).filter fun text => !isBlankText text))

/-- The elements of a section that are its parameters, without those of an excluded name. -/
def parameterNodes (node : Element) (excluded? : Option String) : List Element :=
  ((parameterList? node).map Element.children).getD [] |>.filter fun child =>
    some child.localName ≠ excluded?

/-- A parameter with its value. -/
def Parameter.ofElement (node : Element) : Except Failure Parameter :=
  (ShapedText.ofElement node).map fun value => ⟨node.localName, value⟩

/-- The parameters of a section in document order, or the failure of the first one that is not
well formed. -/
def parametersOf (node : Element) (excluded? : Option String) : Except Failure (List Parameter) :=
  (parameterNodes node excluded?).mapM Parameter.ofElement

end ComponentAssembly

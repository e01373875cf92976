/-! Element trees: what a markup document holds once it is read. -/

namespace ComponentAssembly.Markup

/-- A name, with the namespace it belongs to if it has one. -/
structure QName where
  space : Option String
  localName : String
deriving Repr, DecidableEq

/-- A name as one text, with its namespace in braces in front. -/
def QName.text : QName → String
  | ⟨none, name⟩ => name
  | ⟨some space, name⟩ => "\x7b" ++ space ++ "\x7d" ++ name

/-- The name that a text of this form shows, up to its last closing brace if it begins with an opening
one; none if the brace is not closed. -/
def QName.ofText? (s : String) : Option QName :=
  match s.toList with
  | '{' :: rest =>
    let (back, front) := rest.reverse.span (· ≠ '}')
    match front with
    | [] => none
    | _ :: space => some ⟨some (String.ofList space.reverse), String.ofList back.reverse⟩
  | _ => some ⟨none, s⟩

mutual

/-- An element: its name, its attributes and what stands between its tags. -/
inductive Element where
  | mk (name : QName) (attributes : List (QName × String)) (content : List Content)
deriving Repr

/-- A piece of an element's content: a child, a run of text or a remark for readers or tools. -/
inductive Content where
  | element (e : Element)
  | text (s : String)
  | comment (s : String)
  | instruction (target data : String)
deriving Repr

end

namespace Element

/-- The name of an element. -/
def name : Element → QName
  | .mk name _ _ => name

/-- The attributes of an element. -/
def attributes : Element → List (QName × String)
  | .mk _ attributes _ => attributes

/-- What stands between the tags of an element. -/
def content : Element → List Content
  | .mk _ _ content => content

/-- The name of an element without its namespace. -/
def localName (e : Element) : String := e.name.localName

/-- The value of an attribute that has no namespace. -/
def attribute? (e : Element) (name : String) : Option String :=
  (e.attributes.find? fun a => a.1 = ⟨none, name⟩).map (·.2)

end Element

/-- The child that a piece of content is. -/
def Content.element? : Content → Option Element
  | .element e => some e
  | _ => none

/-- The child elements in document order. -/
def Element.children (e : Element) : List Element := e.content.filterMap Content.element?

/-- The child elements with a local name, in document order. -/
def Element.childrenNamed (e : Element) (name : String) : List Element :=
  e.children.filter fun child => child.localName = name

mutual

/-- All text inside an element in document order, that of the remarks included. -/
def Element.fullText : Element → String
  | .mk _ _ content => textOf content

/-- The text of one piece of content. -/
def Content.fullText : Content → String
  | .element e => e.fullText
  | .text s => s
  | .comment s => s
  | .instruction target data => if data.isEmpty then target else target ++ " " ++ data

/-- The text of pieces of content in a row. -/
def textOf : List Content → String
  | [] => ""
  | c :: rest => c.fullText ++ textOf rest

end

/-- Puts a run of text in front, joined with one that stands there already. -/
def joinText (s : String) : List Content → List Content
  | .text t :: rest => .text (s ++ t) :: rest
  | rest => .text s :: rest

mutual

/-- An element without the remarks inside it; the text around each of them is joined. -/
def Element.withoutRemarks : Element → Element
  | .mk name attributes content => .mk name attributes (dropRemarks content)

/-- Content without remarks. -/
def dropRemarks : List Content → List Content
  | [] => []
  | .element e :: rest => .element e.withoutRemarks :: dropRemarks rest
  | .text s :: rest => joinText s (dropRemarks rest)
  | .comment _ :: rest => dropRemarks rest
  | .instruction _ _ :: rest => dropRemarks rest

end

end ComponentAssembly.Markup

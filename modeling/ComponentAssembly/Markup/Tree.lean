import ComponentAssembly.Markup.DocumentType
import ComponentAssembly.Markup.Element
import ComponentAssembly.Markup.Source

/-! Building the element tree from tokens: namespaces, default attributes and entities. -/

namespace ComponentAssembly.Markup

/-- The namespaces in force, the latest first; the empty text stands for names without a colon. -/
abbrev Scope := List (String × String)

/-- The namespace that the letters `xml` always stand for. -/
def xmlSpace : String := "http://www.w3.org/XML/1998/namespace"

/-- The namespace of namespace declarations. -/
def declarationSpace : String := "http://www.w3.org/2000/xmlns/"

/-- The scope outside the root element. -/
def Scope.outermost : Scope := [("xml", xmlSpace)]

/-- The namespace that a prefix stands for. -/
def Scope.space? (scope : Scope) (lead : String) : Option String :=
  (scope.find? (·.1 = lead)).map (·.2)

/-- Adds a namespace declaration. Only the default can be taken back, and the reserved namespaces
and prefixes cannot be given away. -/
def Scope.declare? (scope : Scope) (lead space : String) : Option Scope :=
  if space.isEmpty && !lead.isEmpty then none
  else if lead = "xmlns" then none
  else if (lead = "xml") ≠ (space = xmlSpace) then none
  else if space = declarationSpace then none
  else if '\x7d' ∈ space.toList then none
  else some ((lead, space) :: scope)

/-- The full name of an element. -/
def Scope.elementName? (scope : Scope) : WrittenName → Option QName
  | ⟨none, base⟩ => some ⟨(scope.space? "").filter fun space => !space.isEmpty, base⟩
  | ⟨some lead, base⟩ => (scope.space? lead).map fun space => ⟨some space, base⟩

/-- The full name of an attribute; one without a prefix has no namespace. -/
def Scope.attributeName? (scope : Scope) : WrittenName → Option QName
  | ⟨none, base⟩ => some ⟨none, base⟩
  | ⟨some lead, base⟩ => (scope.space? lead).map fun space => ⟨some space, base⟩

/-- A name as one text, as it is written. -/
def WrittenName.text : WrittenName → String
  | ⟨none, base⟩ => base
  | ⟨some lead, base⟩ => lead ++ ":" ++ base

/-- A name from one text, divided at its first colon. -/
def WrittenName.ofText (s : String) : WrittenName :=
  match s.toList.span (· ≠ ':') with
  | (_, []) => ⟨none, s⟩
  | (lead, _ :: base) => ⟨some (String.ofList lead), String.ofList base⟩

/-- The prefix that an attribute declares a namespace for. -/
def WrittenName.declares? : WrittenName → Option String
  | ⟨none, "xmlns"⟩ => some ""
  | ⟨some "xmlns", base⟩ => some base
  | _ => none

/-- The values of the attributes of a tag, then the defaults of those it lacks. -/
def attributeValues? (t : DocumentType) (budget : Nat) (element : String)
    (written : List (WrittenName × List Char)) :
    Option (List (WrittenName × String) × Nat) := do
  let declared := t.attributes.filter fun a => a.element = element
  let add (sofar : List (WrittenName × String) × Nat) (a : WrittenName × List Char) := do
    let isPlain := ((declared.find? fun d => d.name = a.1.text).map (·.isPlain)).getD true
    let (value, budget) ← t.attributeValue? isPlain sofar.2 a.2
    return (sofar.1 ++ [(a.1, String.ofList value)], budget)
  let (given, budget) ← written.foldlM add ([], budget)
  let missing := declared.filterMap fun a =>
    if written.any fun b => b.1.text = a.name then none
    else a.value.map fun value => (WrittenName.ofText a.name, String.ofList value)
  return (given ++ missing, budget)

/-- Whether no entry occurs twice. -/
def allDistinct {α : Type} [DecidableEq α] : List α → Bool
  | [] => true
  | a :: rest => a ∉ rest && allDistinct rest

/-- The scope and the attributes that a tag gives its element: the namespace declarations among the
attributes, and the others under their full names. -/
def Scope.enter? (scope : Scope) (values : List (WrittenName × String)) :
    Option (Scope × List (QName × String)) := do
  let declare (scope : Scope) (a : WrittenName × String) :=
    match a.1.declares? with
    | some lead => scope.declare? lead a.2
    | none => some scope
  let scope ← values.foldlM declare scope
  let others := values.filter fun a => a.1.declares?.isNone
  let named ← others.mapM fun (name, value) => do return (← scope.attributeName? name, value)
  if allDistinct (values.map (·.1)) && allDistinct (named.map (·.1)) then return (scope, named)
  else none

/-- An element whose closing tag is still to come, with the content in front of it, last first. -/
structure Opened where
  written : WrittenName
  name : QName
  attributes : List (QName × String)
  outer : Scope
  before : List Content

/-- Adds text to content that is kept last first. -/
def addText (s : String) : List Content → List Content
  | .text t :: rest => .text (t ++ s) :: rest
  | rest => if s.isEmpty then rest else .text s :: rest

/-- The content that tokens stand for, last first, given what may still be read of entity texts, and
how much is left after it. `opened` are the elements not closed yet, the innermost first, and `found`
is the content of the innermost, last first. An entity stands for whole elements, and entities nested
more deeply than there are entities contain themselves. -/
def contentOf? (t : DocumentType) (depth budget : Nat) (scope : Scope) (opened : List Opened)
    (found : List Content) : List Token → Option (List Content × Nat)
  | [] => if opened.isEmpty then some (found, budget) else none
  | .text s :: rest => contentOf? t depth budget scope opened (addText (String.ofList s) found) rest
  | .verbatim s :: rest =>
    contentOf? t depth budget scope opened (addText (String.ofList s) found) rest
  | .character c :: rest =>
    contentOf? t depth budget scope opened (addText (String.singleton c) found) rest
  | .comment s :: rest =>
    contentOf? t depth budget scope opened (.comment (String.ofList s) :: found) rest
  | .instruction target data :: rest =>
    contentOf? t depth budget scope opened (.instruction target (String.ofList data) :: found) rest
  | .opening written attributes isEmpty :: rest => do
    let (values, budget) ← attributeValues? t budget written.text attributes
    let (inner, attributes) ← scope.enter? values
    let name ← inner.elementName? written
    if isEmpty then
      contentOf? t depth budget scope opened (.element (.mk name attributes []) :: found) rest
    else
      contentOf? t depth budget inner (⟨written, name, attributes, scope, found⟩ :: opened) [] rest
  | .closing written :: rest =>
    match opened with
    | [] => none
    | innermost :: opened =>
      if innermost.written = written then
        let e := Element.mk innermost.name innermost.attributes found.reverse
        contentOf? t depth budget innermost.outer opened (.element e :: innermost.before) rest
      else none
  | .reference name :: rest =>
    match depth, t.entity? name with
    | depth + 1, some (.inside text) =>
      if budget < text.length then none
      else do
        let tokens ← tokens? text
        let (inside, budget) ← contentOf? t depth (budget - text.length) scope [] [] tokens
        contentOf? t (depth + 1) budget scope opened (addAll inside.reverse found) rest
    | _, _ => none
termination_by tokens => (depth, tokens.length)
where
  /-- Adds the content that an entity stands for, in document order, to content kept last first. -/
  addAll (inside found : List Content) : List Content :=
    match inside with
    | .text s :: rest => rest.reverse ++ addText s found
    | inside => inside.reverse ++ found

/-- The tokens up to the end of the root element, and those after it. The depth is that of the
elements not closed yet. -/
def splitRoot? (depth : Nat) (before : List Token) : List Token → Option (List Token × List Token)
  | [] => none
  | token :: rest =>
    match token, depth with
    | .opening _ _ true, 0 => some ((token :: before).reverse, rest)
    | .opening _ _ false, depth => splitRoot? (depth + 1) (token :: before) rest
    | .closing _, 0 => none
    | .closing _, 1 => some ((token :: before).reverse, rest)
    | .closing _, depth + 1 => splitRoot? depth (token :: before) rest
    | _, 0 => none
    | _, depth => splitRoot? depth (token :: before) rest

/-- Whether a token may follow the root element. -/
def Token.mayFollowRoot : Token → Bool
  | .comment _ => true
  | .instruction _ _ => true
  | .text s => s.all isSpace
  | _ => false

/-- What stands in front of the root element: white space, remarks and at most one document type. -/
def prolog? (standalone : Bool) (budget : Nat) (s : List Char) :
    Option (DocumentType × Nat × List Char) :=
  go s.length (DocumentType.none standalone) false budget s
where
  /-- At most as many steps as there are characters; `hasType` tells whether there was a document
  type. -/
  go : Nat → DocumentType → Bool → Nat → List Char → Option (DocumentType × Nat × List Char)
    | 0, _, _, _, _ => none
    | steps + 1, t, hasType, budget, s =>
      match skipSpace s with
      | '<' :: '!' :: 'D' :: rest =>
        if hasType then none
        else do
          let rest ← afterText? "OCTYPE" rest
          let (t, budget, rest) ← documentType? standalone budget rest
          go steps t true budget rest
      | '<' :: '!' :: rest => do go steps t hasType budget (← remark? ('!' :: rest))
      | '<' :: '?' :: rest => do go steps t hasType budget (← remark? ('?' :: rest))
      | '<' :: rest => some (t, budget, '<' :: rest)
      | _ => none

/-- How many characters of entity texts may be read for a document of this length. -/
def expansionLimit (length : Nat) : Nat := max 8388608 (100 * length)

/-- The root element of a document. -/
def Source.root? (source : Source) : Option Element := do
  let (t, budget, rest) ←
    prolog? source.standalone (expansionLimit source.chars.length) source.chars
  let (tokens, after) ← splitRoot? 0 [] (← tokens? rest)
  if after.all Token.mayFollowRoot then
    match ← contentOf? t t.entities.length budget .outermost [] [] tokens with
    | ([.element e], _) => return e
    | _ => none
  else none

/-- The root element of the document that bytes stand for, remarks kept. -/
def Element.ofBytes (bytes : List UInt8) : Except ReadProblem Element := do
  let source ← Source.ofBytes bytes
  match source.root? with
  | some e => return e
  | none => throw .malformed

end ComponentAssembly.Markup

import ComponentAssembly.Failure.Message
import ComponentAssembly.Markup.Tree

/-! Configuration documents and their sections. -/

namespace ComponentAssembly

open Markup

/-- The local name of the root of every document. -/
def rootName : String := "properties"

/-- A configuration document. -/
structure Configuration where
  root : Element
  root_named : root.localName = rootName

/-- What a document can be loaded from: bytes, an element tree that is already there, or a file that
is not. -/
inductive ConfigurationSource where
  | bytes (b : List UInt8)
  | tree (root : Element)
  | missingFile (path : String)

/-- The tree that bytes stand for, with the remarks in it or without. -/
def readTree (keepRemarks : Bool) (bytes : List UInt8) : Except Failure Element :=
  match Element.ofBytes bytes with
  | .error p => .error (.document (.unparsed p))
  | .ok root => .ok (if keepRemarks then root else root.withoutRemarks)

namespace Configuration

/-- The document with this root. -/
def ofRoot (root : Element) : Except Failure Configuration :=
  if h : root.localName = rootName then .ok ⟨root, h⟩
  else .error (.document (.wrongRoot root.localName))

/-- Loads a document. Remarks in bytes are passed over. -/
def load : ConfigurationSource → Except Failure Configuration
  | .tree root => ofRoot root
  | .missingFile path => .error (.document (.missingFile path))
  | .bytes b =>
    match Element.ofBytes b with
    | .error p => .error (.document (.unreadable p))
    | .ok root => ofRoot root.withoutRemarks

/-- The sections in document order. -/
def sections (d : Configuration) : List Element := d.root.children

/-- The sections with a tag in document order. -/
def sectionsNamed (d : Configuration) (tag : String) : List Element := d.root.childrenNamed tag

/-- The only section with a tag. -/
def onlySection (d : Configuration) (tag : String) : Except Failure Element :=
  match d.sectionsNamed tag with
  | [] => .error (.document (.missingSection tag))
  | [node] => .ok node
  | _ => .error (.document (.repeatedSection tag))

end Configuration

end ComponentAssembly

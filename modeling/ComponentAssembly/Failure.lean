import ComponentAssembly.ErrorKind
import ComponentAssembly.Markup.Source
import ComponentAssembly.Numeral.Integer
import ComponentAssembly.Parameter.Shape
import ComponentAssembly.World.Capability

/-! What can go wrong, by cause. -/

namespace ComponentAssembly

open Markup Numeral

/-- What can be wrong with a document. -/
inductive DocumentProblem where
  /-- A document cannot be loaded from these bytes. -/
  | unreadable (p : ReadProblem)
  /-- A tree that is handed over cannot be made from these bytes. -/
  | unparsed (p : ReadProblem)
  /-- A name opens the braces of its namespace and does not close them. -/
  | unclosedNamespace
  | missingFile (path : String)
  | wrongRoot (found : String)
  | missingSection (tag : String)
  | repeatedSection (tag : String)
  | missingClass (element : String)
  | entryWithoutKey (parameter : String)
  | entryWithoutValue (parameter : String)
deriving Repr, DecidableEq

/-- Why the text of a parameter does not stand for a value of a type. -/
inductive ConversionProblem where
  | noNumber
  | noFlag (text : String)
  | outside (n : Int) (bounds : Bounds)
deriving Repr, DecidableEq

/-- Why a module is not to be had. -/
inductive ImportProblem where
  | missing (module : String)
  | insideNoPackage (module parent : String)
deriving Repr, DecidableEq

/-- Why something cannot be called. -/
inductive CallProblem where
  | abstractClass (name : String) (methods : List String)
  | protocolClass
  | refused (r : Refusal)
  | takesNothing (name : String)
  | notCallable (typeName : String)
deriving Repr, DecidableEq

/-- A failure. One that was caused by another one has it as its cause. -/
inductive Failure where
  /-- An error that a body of the world raised. -/
  | raised (kind : ErrorKind) (text : String) (identifier : Option String)
  | document (p : DocumentProblem)
  | noImport (p : ImportProblem)
  | noCall (p : CallProblem)
  | noAttribute (typeName name : String)
  | undefinedName (name : String)
  | missingSetting (name : String)
  | unexpectedValue (v : Value)
  /-- No setter takes a parameter, or none takes one of this shape. -/
  | noSetter (parameter setter : String) (shape? : Option Shape) (target : String)
  | unconvertible (parameter text : String) (type : ScalarType) (p : ConversionProblem)
  | setterFailed (parameter setter : String) (cause : Failure)
  | undeclaredReturn (function identifier : String)
  | notBuildable (shown identifier : String)
  | misregistered (identifier : String) (cause : Failure)
  /-- An identifier is no dotted name, or the module that it names has no such attribute. -/
  | unknownClass (identifier : String) (moduleFound : Bool)
  | importFailed (identifier : String) (cause : Failure)
  | ambiguousClass (identifier : String) (profiles? : Option (List String))
  | unmetRequirement (identifier : String) (required : Capability)
  | uncheckable (identifier : String) (required : Capability)
  | needsArguments (identifier : String) (misfit : Misfit)
  | constructionFailed (identifier : String) (cause : Failure)
  | takesNoChildren (identifier : String) (misfit : Misfit)
  | compositionFailed (identifier : String) (cause : Failure)
  /-- A component was found to be wrongly set up. -/
  | problemFound (className problem : String)
  | initializationFailed (className : String) (cause : Failure)
deriving Repr

end ComponentAssembly

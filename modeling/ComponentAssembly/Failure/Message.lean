import ComponentAssembly.Failure

/-! The kind, the text, the identifier and the cause that a failure is reported with. -/

namespace ComponentAssembly

open Markup Numeral

/-- The kind of a parser's error. -/
def parseErrorKind : ErrorKind := .foreign "ParseError"

/-- The kind of each reason why bytes are not read, where malformed bytes have a kind of their own. -/
def Markup.ReadProblem.kind (malformedKind : ErrorKind) : ReadProblem → ErrorKind
  | .malformed => malformedKind
  | .unknownEncoding _ | .noTextEncoding _ => .foreign "LookupError"
  | .multibyteEncoding => .foreign "ValueError"
  | .undecodable _ _ => .foreign "UnicodeError"
  | .undecodableByte => .foreign "UnicodeDecodeError"

/-- The text of each reason why bytes are not read. -/
def Markup.ReadProblem.message (malformedText : String) : ReadProblem → String
  | .malformed => malformedText
  | .unknownEncoding name => "unknown encoding: " ++ name
  | .noTextEncoding name => "'" ++ String.ofList (name.toList.take 400)
      ++ "' is not a text encoding; use codecs.decode() to handle arbitrary codecs"
  | .multibyteEncoding => "multi-byte encodings are not supported"
  | .undecodable name reason =>
    "decoding with '" ++ name ++ "' codec failed (UnicodeError: " ++ reason ++ ")"
  | .undecodableByte =>
    "'ascii' codec can't decode byte 0x80 in position 82: ordinal not in range(128)"

/-- The kind of each problem with a document. -/
def DocumentProblem.kind : DocumentProblem → ErrorKind
  | .unreadable p => p.kind (.config .documentFormat)
  | .unparsed p => p.kind parseErrorKind
  | .unclosedNamespace => .foreign "IndexError"
  | .wrongRoot _ => .config .documentFormat
  | .missingFile _ => .foreign "FileNotFoundError"
  | .missingSection _ => .config .notFound
  | .repeatedSection _ => .config .duplicateDefinition
  | .missingClass _ => .config .missingClassAttribute
  | .entryWithoutKey _ | .entryWithoutValue _ => .config .malformedMapEntry

/-- The text of each problem with a document. -/
def DocumentProblem.message : DocumentProblem → String
  | .unreadable p => p.message "problem loading xml"
  | .unparsed p => p.message "malformed markup"
  | .unclosedNamespace => "list index out of range"
  | .missingFile path => "[Errno 2] No such file or directory: " ++ Text.quoted path
  | .wrongRoot found => "expect properties as root node, found " ++ found
  | .missingSection tag => "could not find " ++ tag
  | .repeatedSection tag => "There can only be one " ++ tag ++ " in a config"
  | .missingClass element => "element " ++ element ++ " must have a 'class' attribute"
  | .entryWithoutKey parameter =>
    "must specify a 'key' or 'from' value in a map object: " ++ parameter
  | .entryWithoutValue parameter =>
    "must specify a 'value' or 'to' value in a map object: " ++ parameter

/-- What each problem with a document is about. -/
def DocumentProblem.identifier? : DocumentProblem → Option String
  | .unreadable _ | .unparsed _ | .unclosedNamespace | .missingFile _ => none
  | .wrongRoot name | .missingSection name | .repeatedSection name | .missingClass name
  | .entryWithoutKey name | .entryWithoutValue name => some name

/-- Why a text does not stand for a value, where that is said. -/
def ConversionProblem.note? : ConversionProblem → Option String
  | .noNumber => none
  | .noFlag text => some ("'" ++ text ++ "' is not 'true' or 'false'")
  | .outside n bounds => some (toString n ++ " is outside [" ++ toString bounds.lower ++ ", "
      ++ toString bounds.upper ++ "]")

/-- The text of an import that finds no module. -/
def ImportProblem.message : ImportProblem → String
  | .missing module => "No module named " ++ Text.quoted module
  | .insideNoPackage module parent =>
    "No module named " ++ Text.quoted module ++ "; " ++ Text.quoted parent ++ " is not a package"

/-- Names in a row, the last one after an "and". -/
def nameList : List String → String
  | [] => ""
  | [a] => a
  | [a, b] => a ++ " and " ++ b
  | [a, b, c] => a ++ ", " ++ b ++ ", and " ++ c
  | a :: rest => a ++ ", " ++ nameList rest

/-- The ending of a noun for that many things. -/
def pluralEnding (count : Nat) : String := if count = 1 then "" else "s"

/-- The text of a refused call for values that are missing. -/
def missingText (how : String) (names : List String) : String :=
  "__init__() missing " ++ toString names.length ++ " required " ++ how ++ " argument"
    ++ pluralEnding names.length ++ ": " ++ nameList (names.map Text.quoted)

/-- The text of a refused call. -/
def Refusal.message : Refusal → String
  | .wrongCount fewest most given =>
    let range :=
      if fewest = most then toString most ++ " positional argument" ++ pluralEnding most
      else "from " ++ toString fewest ++ " to " ++ toString most ++ " positional arguments"
    "__init__() takes " ++ range ++ " but " ++ toString given
      ++ (if given = 1 then " was given" else " were given")
  | .missingPositions names => missingText "positional" names
  | .missingNames names => missingText "keyword-only" names

/-- The text for something that cannot be called. -/
def CallProblem.message : CallProblem → String
  | .abstractClass name methods =>
    "Can't instantiate abstract class " ++ name ++ " with abstract method"
      ++ pluralEnding methods.length ++ " " ++ ", ".intercalate methods
  | .protocolClass => "Protocols cannot be instantiated"
  | .refused r => r.message
  | .takesNothing name => name ++ "() takes no arguments"
  | .notCallable typeName => Text.quoted typeName ++ " object is not callable"

/-- The text for a signature that does not fit. -/
def Misfit.message : Misfit → String
  | .tooMany => "too many positional arguments"
  | .missing parameter => "missing a required argument: " ++ Text.quoted parameter

/-- Names as a set: in quotes and sorted. -/
def nameSet (names : List String) : String :=
  match names.eraseDups.mergeSort fun a b => decide (a ≤ b) with
  | [] => "set()"
  | sorted => "\x7b" ++ ", ".intercalate (sorted.map Text.quoted) ++ "\x7d"

/-- A shape as messages name it. -/
def Shape.phrase : Shape → String
  | .scalar => "a scalar"
  | .list => "a list"
  | .map => "a map"

/-- The text that an error of a kind is shown with. -/
def ErrorKind.shownText (kind : ErrorKind) (text : String) : String :=
  if kind = .foreign "KeyError" then Text.quoted text else text

namespace Failure

/-- The kind of a failure. -/
def kind : Failure → ErrorKind
  | raised kind _ _ => kind
  | document p => p.kind
  | noImport _ => .foreign "ModuleNotFoundError"
  | noCall _ | unexpectedValue _ => .foreign "TypeError"
  | noAttribute _ _ => .foreign "AttributeError"
  | undefinedName _ => .foreign "NameError"
  | missingSetting _ => .foreign "ValueError"
  | noSetter .. => .config .noMatchingMutator
  | unconvertible .. => .config .coercion
  | setterFailed .. => .config .mutatorInvocation
  | undeclaredReturn _ _ | notBuildable _ _ => .config .registration
  | misregistered _ _ | unknownClass _ _ | importFailed _ _ | ambiguousClass _ _
  | uncheckable _ _ => .config .resolution
  | unmetRequirement _ _ => .config .typeConstraint
  | needsArguments _ _ | constructionFailed _ _ | compositionFailed _ _ =>
    .config .instantiation
  | takesNoChildren _ _ => .config .incompatibleComposite
  | problemFound _ _ | initializationFailed _ _ => .config .lifecycle

/-- The text of a failure. -/
def message : Failure → String
  | raised kind text _ => kind.shownText text
  | document p => p.message
  | noImport p => p.message
  | noCall p => p.message
  | noAttribute typeName name =>
    Text.quoted typeName ++ " object has no attribute " ++ Text.quoted name
  | undefinedName name => "name '" ++ name ++ "' is not defined"
  | missingSetting name => "parameter '" ++ name ++ "' must be set in the config file"
  | unexpectedValue v => "Unexpected parameter value " ++ v.quoted
  | noSetter _ setter shape? target =>
    "Couldn't find setter: " ++ setter
      ++ (match shape? with
        | some shape => " accepting " ++ shape.phrase
        | none => "")
      ++ " for object " ++ target
  | unconvertible parameter text type _ =>
    "bad parameter " ++ parameter ++ ": cannot convert '" ++ text ++ "' to " ++ type.name
  | setterFailed _ setter cause => "bad parameter " ++ setter ++ ": " ++ cause.message
  | undeclaredReturn function _ =>
    "Factory " ++ function ++ " must declare the type it returns"
  | notBuildable shown _ => shown ++ " is not a class or function"
  | misregistered _ cause => cause.message
  | unknownClass identifier _ => "Unknown class '" ++ identifier ++ "'"
  | importFailed identifier cause =>
    (if cause.kind.isImport then "Unknown class '" else "problem importing module for '")
      ++ identifier ++ "': " ++ cause.message
  | ambiguousClass identifier profiles? =>
    "Multiple classes registered as '" ++ identifier ++ "' for profiles "
      ++ (match profiles? with
        | some profiles => nameSet profiles
        | none => Value.nothing.quoted)
  | unmetRequirement identifier required =>
    identifier ++ " must be of type '" ++ required.text ++ "'"
  | uncheckable identifier required =>
    "Cannot check " ++ identifier ++ " against " ++ required.quoted
  | needsArguments identifier misfit =>
    identifier ++ " cannot be created without arguments: " ++ misfit.message
  | constructionFailed identifier cause =>
    "problem loading " ++ identifier ++ ": " ++ cause.message
  | takesNoChildren identifier _ =>
    "can't build composite class " ++ identifier ++ ": it must accept a list of items"
  | compositionFailed identifier cause =>
    "can't build composite class " ++ identifier ++ ": " ++ cause.message
  | problemFound className problem => className ++ ": " ++ problem
  | initializationFailed className cause =>
    "problem initializing " ++ className ++ ": " ++ cause.message

/-- What a failure of one of the library's own kinds is about. -/
def identifier? : Failure → Option String
  | raised _ _ identifier => identifier
  | document p => p.identifier?
  | noSetter parameter _ _ _ | unconvertible parameter _ _ _ | setterFailed parameter _ _ =>
    some parameter
  | undeclaredReturn _ identifier | notBuildable _ identifier | misregistered identifier _
  | unknownClass identifier _ | importFailed identifier _ | ambiguousClass identifier _
  | unmetRequirement identifier _ | uncheckable identifier _ | needsArguments identifier _
  | constructionFailed identifier _ | takesNoChildren identifier _
  | compositionFailed identifier _ => some identifier
  | problemFound className _ | initializationFailed className _ => some className
  | noImport _ | noCall _ | noAttribute _ _ | undefinedName _ | missingSetting _
  | unexpectedValue _ => none

/-- The kind of the error that a failure was caused by. -/
def causeKind? : Failure → Option ErrorKind
  | document (.unreadable .malformed) => some parseErrorKind
  | unconvertible .. => some (.foreign "ValueError")
  | setterFailed _ _ cause | misregistered _ cause | importFailed _ cause
  | constructionFailed _ cause | compositionFailed _ cause | initializationFailed _ cause =>
    some cause.kind
  | unknownClass _ true => some (.foreign "AttributeError")
  | uncheckable _ _ | needsArguments _ _ | takesNoChildren _ _ => some (.foreign "TypeError")
  | _ => none

/-- The text of the error that a failure was caused by, where that is said. -/
def causeNote? : Failure → Option String
  | unconvertible _ _ _ p => p.note?
  | _ => none

end Failure

end ComponentAssembly

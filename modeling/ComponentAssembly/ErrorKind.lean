/-! Kinds of errors: the library's own, which form a tree, and those of the surrounding program. -/

namespace ComponentAssembly

/-- The kinds of the library's own errors. -/
inductive ConfigKind where
  | config
  | documentFormat
  | notFound
  | duplicateDefinition
  | registration
  | resolution
  | missingClassAttribute
  | typeConstraint
  | instantiation
  | malformedMapEntry
  | parameter
  | noMatchingMutator
  | coercion
  | mutatorInvocation
  | incompatibleComposite
  | lifecycle
deriving Repr, DecidableEq

namespace ConfigKind

/-- All kinds, the most general one first. -/
def all : List ConfigKind :=
  [config, documentFormat, notFound, duplicateDefinition, registration, resolution,
    missingClassAttribute, typeConstraint, instantiation, malformedMapEntry, parameter,
    noMatchingMutator, coercion, mutatorInvocation, incompatibleComposite, lifecycle]

/-- The name under which a kind is shown. -/
def name : ConfigKind → String
  | config => "ConfigError"
  | documentFormat => "DocumentFormatError"
  | notFound => "NotFoundError"
  | duplicateDefinition => "DuplicateDefinitionError"
  | registration => "RegistrationError"
  | resolution => "ResolutionError"
  | missingClassAttribute => "MissingClassAttributeError"
  | typeConstraint => "TypeConstraintError"
  | instantiation => "InstantiationError"
  | malformedMapEntry => "MalformedMapEntryError"
  | parameter => "ParameterError"
  | noMatchingMutator => "NoMatchingMutatorError"
  | coercion => "CoercionError"
  | mutatorInvocation => "MutatorInvocationError"
  | incompatibleComposite => "IncompatibleCompositeConstructorError"
  | lifecycle => "LifecycleError"

/-- The next more general kind. -/
def parent? : ConfigKind → Option ConfigKind
  | config => none
  | missingClassAttribute | typeConstraint | instantiation => some resolution
  | noMatchingMutator | coercion | mutatorInvocation => some parameter
  | _ => some config

/-- A kind and the more general ones, the nearest first. -/
def withAncestors (k : ConfigKind) : List ConfigKind :=
  match k.parent? with
  | none => [k]
  | some p => k :: p :: (p.parent?).toList

/-- The kind that a name shows. -/
def ofName? (name : String) : Option ConfigKind := all.find? fun k => k.name = name

end ConfigKind

/-- The kind of an error: one of the library's own, or one of the surrounding program's by name. -/
inductive ErrorKind where
  | config (k : ConfigKind)
  | foreign (name : String)
deriving Repr, DecidableEq

namespace ErrorKind

/-- The name under which a kind is shown. -/
def name : ErrorKind → String
  | config k => k.name
  | foreign name => name

/-- The kind that a name shows. -/
def ofName (name : String) : ErrorKind :=
  match ConfigKind.ofName? name with
  | some k => config k
  | none => foreign name

/-- Whether an error of this kind says that a module is not to be had. -/
def isImport : ErrorKind → Bool
  | foreign name => name = "ImportError" || name = "ModuleNotFoundError"
  | config _ => false

/-- Whether the error of a failed access counts as the attribute being absent. -/
def isAbsence (k : ErrorKind) : Bool := k = foreign "AttributeError"

end ErrorKind

theorem ConfigKind.ofName?_name (k : ConfigKind) : ofName? k.name = some k := by
  cases k <;> rfl

theorem ErrorKind.ofName_name_config (k : ConfigKind) : ofName k.name = config k := by
  simp [ofName, ConfigKind.ofName?_name]

end ComponentAssembly

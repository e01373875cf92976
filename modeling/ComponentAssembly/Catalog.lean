import ComponentAssembly.Build.Construction
import ComponentAssembly.World.Import

/-! Catalogs: which class or factory an identifier stands for, depending on profiles. Identifiers that
no entry bears are taken for dotted names. -/

namespace ComponentAssembly

/-- An entry of a catalog. Without profiles it is always active. -/
structure Entry where
  name : String
  factory : Factory
  profiles : List String
  provided : Provided
deriving Repr

/-- Entries in the order in which they were made. -/
abbrev Catalog := List Entry

/-- The name of a profile that must not be selected, if that is what a statement says. -/
def excludedProfile? (statement : String) : Option String :=
  match statement.toList with
  | '!' :: rest => some (String.ofList rest)
  | _ => none

/-- Whether an entry with these profiles is active under the selected ones: no excluded one is
selected, and one of the others is if there are any. -/
def isActiveUnder (stated selected : List String) : Bool :=
  let wanted := stated.filter fun p => (excludedProfile? p).isNone
  !(stated.filterMap excludedProfile?).any (· ∈ selected)
    && (wanted.isEmpty || wanted.any (· ∈ selected))

/-- The entries that are active; all of them if no profiles are given. -/
def Catalog.active (catalog : Catalog) (profiles? : Option (List String)) : List Entry :=
  match profiles? with
  | none => catalog
  | some selected => catalog.filter fun e => isActiveUnder e.profiles selected

/-- Whether a type without a class of the world is a class all the same. -/
def isClassName (name : String) : Bool := !"typing.".toList.isPrefixOf name.toList

/-- What is known of the instances that a factory with this result gives. -/
def Provided.ofResult (t : TypeExpr) : Provided :=
  match t.withoutNotes.normal true with
  | .instanceOf c => .cls c
  | .scalar t => if t.isMarker then .noClass else .foreignClass
  | .anything | .nothing => .foreignClass
  | .bare name => if isClassName name then .foreignClass else .noClass
  | _ => .noClass

/-- The types that a function states for its parameters and its result. -/
def FunctionDecl.statedTypes (f : FunctionDecl) : List TypeExpr :=
  f.params.filterMap Param.type? ++ f.returns?.toList

/-- The result that a factory function states. All types that it states must be known. -/
def FunctionDecl.result (f : FunctionDecl) (identifier : String) : Except Failure TypeExpr :=
  match TypeExpr.unknownNamesOf f.statedTypes, f.returns? with
  | name :: _, _ => .error (.undefinedName name)
  | [], none => .error (.undeclaredReturn f.name.name identifier)
  | [], some t => .ok t

/-- A text without a beginning; unchanged if it does not begin so. -/
def withoutBeginning (beginning name : String) : String :=
  match beginning.toList.isPrefixOf? name.toList with
  | some rest => String.ofList rest
  | none => name

/-- The identifier of a target that none is given for. -/
def Target.ownName : Target → Except Failure String
  | .cls c => .ok c.name
  | .function f => .ok (withoutBeginning "make_" f.name.name)
  | .value v => .error (.noAttribute (v.typeName?.getD "object") "__name__")

/-- The entry for a target. -/
def Target.entry (t : Target) (name : String) (profiles : List String) : Except Failure Entry :=
  match t with
  | .cls c => .ok ⟨name, .cls c, profiles, .cls c⟩
  | .function f => (f.result name).map fun type => ⟨name, .function f, profiles, .ofResult type⟩
  | .value v => .error (.notBuildable v.shown name)

/-- The identifier that a target is entered under: the one given, unless it is empty. -/
def Target.nameFor (t : Target) (name? : Option String) : Except Failure String :=
  match name?.filter (!·.isEmpty) with
  | some name => .ok name
  | none => t.ownName

/-- Enters a target at the end. -/
def Catalog.enter (catalog : Catalog) (t : Target) (name? : Option String)
    (profiles : List String) : Except Failure Catalog := do
  let name ← t.nameFor name?
  let e ← t.entry name profiles
  return catalog ++ [e]

variable (w : World)

/-- Whether an identifier has the form of a dotted name: something before the last dot, which does not
begin with a dot, and something after it. -/
def isDottedName (identifier : String) : Bool :=
  let (module, name) := splitLast identifier
  !module.isEmpty && !name.isEmpty && module.toList.head? ≠ some '.'

/-- The entry that a dotted name stands for. -/
def World.importEntry (identifier : String) : Except Failure Entry :=
  if !isDottedName identifier then .error (.unknownClass identifier false)
  else
    let (module, name) := splitLast identifier
    match w.importModule module with
    | .error f => .error (.importFailed identifier f)
    | .ok () =>
      match w.target? ⟨module, name⟩ with
      | none => .error (.unknownClass identifier true)
      | some t =>
        match t.entry identifier [] with
        | .ok e => .ok e
        | .error f =>
          if f.kind = .config .registration then .error (.misregistered identifier f)
          else .error f

/-- The entry that an identifier stands for: the only active one of that name, else the one that it
names as a dotted name. -/
def World.entryFor (catalog : Catalog) (identifier : String) (profiles? : Option (List String)) :
    Except Failure Entry :=
  match (catalog.active profiles?).filter fun e => e.name = identifier with
  | [] => w.importEntry identifier
  | [e] => .ok e
  | _ => .error (.ambiguousClass identifier profiles?)

/-- The entry that an identifier stands for, if it meets a requirement. -/
def World.suitableEntry (catalog : Catalog) (identifier : String) (required : Capability)
    (profiles? : Option (List String)) : Except Failure Entry := do
  let e ← w.entryFor catalog identifier profiles?
  match w.meets? e.provided required with
  | some true => return e
  | some false => throw (.unmetRequirement identifier required)
  | none => throw (.uncheckable e.name required)

/-- Makes an instance of what an identifier stands for. -/
def World.instanceFor (catalog : Catalog) (identifier : String) (required : Capability)
    (profiles? : Option (List String)) : Build Value := do
  let e ← ofExcept (w.suitableEntry catalog identifier required profiles?)
  w.makeChecked (.needsArguments identifier) (.constructionFailed identifier) e.factory []

end ComponentAssembly

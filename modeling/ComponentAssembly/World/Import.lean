import ComponentAssembly.Failure

/-! Finding modules and what they hold by dotted names. -/

namespace ComponentAssembly

/-- The beginnings of a dotted name, the shortest one first. -/
def beginnings (name : String) : List String :=
  let parts := name.splitOn "."
  (List.range parts.length).map fun i => ".".intercalate (parts.take (i + 1))

/-- The part of a dotted name before the last dot and the part after it; the first one is empty if
there is no dot. -/
def splitLast (name : String) : String × String :=
  let parts := name.splitOn "."
  (".".intercalate parts.dropLast, parts.getLastD "")

namespace World

variable (w : World)

/-- The modules in which a world declares something, and those that fail. -/
def moduleNames : List String :=
  w.classes.map (·.name.module) ++ w.functions.map (·.name.module)
    ++ w.values.map (·.1.module) ++ w.brokenModules.map (·.1)

/-- Whether there is a module: one that a world names or one around it. -/
def hasModule (name : String) : Bool := w.moduleNames.any fun m => name ∈ beginnings m

/-- Whether a module has others inside it. -/
def isPackage (name : String) : Bool :=
  w.moduleNames.any fun m => name ≠ m && name ∈ beginnings m

/-- Imports modules in order, each inside the one before. -/
def importInside (parent? : Option String) : List String → Except Failure Unit
  | [] => .ok ()
  | name :: inner =>
    match parent?.filter fun parent => !w.isPackage parent with
    | some parent => .error (.noImport (.insideNoPackage name parent))
    | none =>
      if !w.hasModule name then .error (.noImport (.missing name))
      else
        match w.brokenModules.find? fun m => m.1 = name with
        | some (_, r) => .error (.raised r.kind r.text r.identifier)
        | none => importInside (some name) inner

/-- Imports a module after the ones around it. -/
def importModule (name : String) : Except Failure Unit := w.importInside none (beginnings name)

end World

/-- Something that an entry of a catalog or a dotted name can refer to. -/
inductive Target where
  | cls (c : ClassRef)
  | function (f : FunctionDecl)
  | value (v : Value)
deriving Repr

/-- What a module holds under a name. -/
def World.target? (w : World) (n : DottedName) : Option Target :=
  (w.value? n).map .value
  <|> (w.functionDecl? n).map .function
  <|> (w.classDecl? n).map fun d => .cls (.own d.name)

end ComponentAssembly

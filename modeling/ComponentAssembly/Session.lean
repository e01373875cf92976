import ComponentAssembly.Build.Assembly

/-! Sessions: entering classes in catalogs, building and setting up components, step by step in one
world. -/

namespace ComponentAssembly

open Markup

/-- A tree that is handed over as markup. -/
structure TreeText where
  bytes : List UInt8
  keepRemarks : Bool
deriving Repr

/-- A document that is handed over: bytes, a tree made of bytes, or the path of a file that is not
there. -/
inductive ConfigurationText where
  | bytes (b : List UInt8)
  | tree (t : TreeText)
  | missingFile (path : String)
deriving Repr

/-- The tree that was handed over. -/
def TreeText.root (t : TreeText) : Except Failure Element := readTree t.keepRemarks t.bytes

/-- What a document that was handed over is loaded from. -/
def ConfigurationText.source : ConfigurationText → Except Failure ConfigurationSource
  | .bytes b => .ok (.bytes b)
  | .tree t => t.root.map .tree
  | .missingFile path => .ok (.missingFile path)

/-- What identifiers are looked up with: one of the two catalogs of a session and the selected
profiles. -/
structure LookupScope where
  shared : Bool
  profiles? : Option (List String)
deriving Repr

/-- A step of a session. Instances are referred to by the names that they are bound to. -/
inductive Step where
  | enter (shared : Bool) (e : Entry)
  | enterTarget (shared : Bool) (t : Target) (name? : Option String) (profiles : List String)
  | entries (scope : LookupScope)
  | entryFor (scope : LookupScope) (identifier : String)
  | suitableEntry (scope : LookupScope) (identifier : String) (required : Capability)
  | instanceFor (scope : LookupScope) (identifier : String) (required : Capability)
  | construct (c : ClassRef) (arguments : List Value)
  | assembleOnly (scope : LookupScope) (tag : String) (required : Capability)
      (d : ConfigurationText)
  | assembleComposite (scope : LookupScope) (childTag : String) (childRequired : Capability)
      (tag : String) (required : Capability) (d : ConfigurationText)
  | assemble (scope : LookupScope) (required : Capability) (t : TreeText)
  | setUpSection (instanceName : String) (t : TreeText)
  | setUpSelf (instanceName tag : String) (d : ConfigurationText)
  | assign (instanceName parameter : String) (value : ShapedText)
  | assignUnexpected (instanceName parameter : String) (value : Value)
  | assignSection (instanceName : String) (excluded? : Option String) (t : TreeText)
  | activate (instanceName : String)
deriving Repr

/-- What a step that does not fail answers. -/
inductive Answer where
  | done
  | entry (e : Entry)
  | entries (es : List Entry)
  | object (v : Value)
  | names (ns : List String)
deriving Repr

/-- A session: its world, two catalogs, a record of the parameters set, the instances that were
bound to names, and what was built. -/
structure Session where
  world : World
  own : Catalog
  shared : Catalog
  record : Settings
  bindings : List (String × Value)
  state : State

namespace Session

/-- A session at its beginning. -/
def start (w : World) : Session := ⟨w, [], [], .empty, [], .empty⟩

/-- The value bound to a name; nothing if there is none. -/
def bound (s : Session) (name : String) : Value :=
  ((s.bindings.find? fun b => b.1 = name).map (·.2)).getD .nothing

/-- One of the two catalogs. -/
def catalog (s : Session) (shared : Bool) : Catalog := if shared then s.shared else s.own

/-- The session with another catalog in the place of one of the two. -/
def withCatalog (s : Session) (shared : Bool) (catalog : Catalog) : Session :=
  if shared then { s with shared := catalog } else { s with own := catalog }

/-- What components are built with in a scope. -/
def assembler (s : Session) (scope : LookupScope) : Assembler :=
  ⟨s.world, s.catalog scope.shared, scope.profiles?⟩

/-- Runs a step of building from the state of a session. -/
def running {α : Type} (s : Session) (b : Build α) (answer : α → Answer) :
    Except Failure Answer × Session :=
  let (result, state) := b.from s.state
  (result.map answer, { s with state := state })

/-- The answer of a computation that changes nothing. -/
def unchanged (s : Session) (result : Except Failure Answer) : Except Failure Answer × Session :=
  (result, s)

/-- Sets the parameters of a section and keeps the record of those set, also when there is a
failure. -/
def assignSection (s : Session) (target : Value) (excluded? : Option String) (t : TreeText) :
    Except Failure Answer × Session :=
  let (result, state) := Build.from (do
    let node ← ofExcept t.root
    s.world.assignSection target node excluded? s.record) s.state
  let (record, failure?) := match result with
    | .ok pass => pass
    | .error f => (s.record, some f)
  let state := { state with trace := state.trace ++ [.recorded record.names] }
  (match failure? with
    | none => .ok .done
    | some f => .error f, { s with record := record, state := state })

/-- Takes a step; its answer, and the session after it. -/
def take (s : Session) : Step → Except Failure Answer × Session
  | .enter shared e => (.ok .done, s.withCatalog shared (s.catalog shared ++ [e]))
  | .enterTarget shared t name? profiles =>
    match (s.catalog shared).enter t name? profiles with
    | .ok catalog => (.ok .done, s.withCatalog shared catalog)
    | .error f => (.error f, s)
  | .entries scope =>
    s.unchanged (.ok (.entries ((s.catalog scope.shared).active scope.profiles?)))
  | .entryFor scope identifier => s.unchanged
    ((s.world.entryFor (s.catalog scope.shared) identifier scope.profiles?).map .entry)
  | .suitableEntry scope identifier required => s.unchanged
    ((s.world.suitableEntry (s.catalog scope.shared) identifier required scope.profiles?).map
      .entry)
  | .instanceFor scope identifier required =>
    s.running (s.world.instanceFor (s.catalog scope.shared) identifier required scope.profiles?)
      .object
  | .construct c arguments => s.running (s.world.construct c arguments) .object
  | .assembleOnly scope tag required d => s.running (do
      (s.assembler scope).assembleOnly tag required (← ofExcept d.source)) .object
  | .assembleComposite scope childTag childRequired tag required d => s.running (do
      (s.assembler scope).assembleComposite childTag childRequired tag required
        (← ofExcept d.source)) .object
  | .assemble scope required t => s.running (do
      (s.assembler scope).assemble (← ofExcept t.root) required) .object
  | .setUpSection instanceName t => s.running (do
      s.world.setUp (s.bound instanceName) (← ofExcept t.root) .empty)
      fun record => .names record.names
  | .setUpSelf instanceName tag d => s.running (do
      s.world.setUpSelf (s.bound instanceName) tag (← ofExcept d.source))
      fun record => .names record.names
  | .assign instanceName parameter value =>
    s.running (s.world.assign (s.bound instanceName) parameter value) fun _ => .done
  | .assignUnexpected instanceName parameter value =>
    s.running (s.world.assignUnexpected (s.bound instanceName) parameter value) fun _ => .done
  | .assignSection instanceName excluded? t => s.assignSection (s.bound instanceName) excluded? t
  | .activate instanceName =>
    s.running (s.world.activate (s.bound instanceName)) fun _ => .done

/-- Takes a step and binds its object to a name if one is given; its answer, the events of the step
alone, and the session after it. -/
def takeTraced (s : Session) (step : Step) (name? : Option String) :
    Except Failure Answer × List Event × Session :=
  let (answer, after) := { s with state.trace := [] }.take step
  let bindings := match name?, answer with
    | some name, .ok (.object v) => (name, v) :: after.bindings
    | _, _ => after.bindings
  (answer, after.state.trace, { after with bindings := bindings })

end Session

end ComponentAssembly

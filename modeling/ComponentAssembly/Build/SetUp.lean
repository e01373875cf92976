import ComponentAssembly.Build.Activation
import ComponentAssembly.Build.Assignment
import ComponentAssembly.Configuration

/-! Setting up components that are there already from the sections of a document. -/

namespace ComponentAssembly

open Build Markup

variable (w : World)

/-- Sets the parameters of a section, then prepares and checks the component. -/
def World.setUp (target : Value) (node : Element) (record : Settings) : Build Settings := do
  let record ← w.assignOrFail target node none record
  w.activate target
  return record

/-- Sets up a component from sections in order. -/
def World.setUpEach (target : Value) : List Element → Settings → Build Settings
  | [], record => pure record
  | node :: rest, record => do
    let record ← w.setUp target node record
    setUpEach target rest record

/-- Tells a component which settings were made, if its class wants to know. -/
def World.tellSettings (target : Value) (record : Settings) : Build Unit := do
  let s ← get
  match (s.classOf? target).bind fun c => w.member? c settingsHookName, target with
  | some (.settingsHook raises?), .object number =>
    emit (.settingsHandled number record.names)
    raise raises? .nothing
  | _, _ => pure ()

/-- Lets a component set itself up from all sections with a tag, if its class can. -/
def World.setUpSelf (target : Value) (tag : String) (source : ConfigurationSource) :
    Build Settings := do
  let s ← get
  match (s.classOf? target).bind fun c => w.member? c setUpName with
  | none => throw (.noAttribute (s.typeName target) setUpName)
  | some _ =>
    let d ← ofExcept (Configuration.load source)
    let record ← w.setUpEach target (d.sectionsNamed tag) .empty
    w.tellSettings target record
    return record

end ComponentAssembly

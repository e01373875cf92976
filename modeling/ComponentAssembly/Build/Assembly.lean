import ComponentAssembly.Build.SetUp
import ComponentAssembly.Catalog

/-! Building the components that the sections of a document describe. -/

namespace ComponentAssembly

open Build Markup

/-- What components are built with: the classes there are, and which of them identifiers stand for. -/
structure Assembler where
  world : World
  catalog : Catalog
  profiles? : Option (List String)

namespace Assembler

variable (a : Assembler)

/-- Builds the component that a section describes. -/
def assemble (node : Element) (required : Capability) : Build Value := do
  let identifier ← ofExcept (statedClass node)
  let v ← a.world.instanceFor a.catalog identifier required a.profiles?
  let _ ← a.world.setUp v node .empty
  return v

/-- Builds the component that the only section with a tag describes. -/
def assembleOnly (tag : String) (required : Capability) (source : ConfigurationSource) :
    Build Value := do
  let d ← ofExcept (Configuration.load source)
  let node ← ofExcept (d.onlySection tag)
  a.assemble node required

/-- Builds the components that sections describe, in order. -/
def assembleEach (required : Capability) : List Element → Build (List Value)
  | [] => pure []
  | node :: rest => do
    let v ← a.assemble node required
    let vs ← assembleEach required rest
    return v :: vs

/-- Finds the section of a composite component, the identifier of its class and its entry. -/
def compositeEntry (tag : String) (required : Capability) (source : ConfigurationSource) :
    Except Failure (Element × String × Entry) := do
  let d ← Configuration.load source
  let node ← d.onlySection tag
  let identifier ← statedClass node
  let e ← a.world.suitableEntry a.catalog identifier required a.profiles?
  return (node, identifier, e)

/-- Makes a composite component around its children and sets it up from its section. A parameter with
the tag of the children is passed over. -/
def compose (childTag : String) (node : Element) (identifier : String) (f : Factory)
    (children : List Value) : Build Value := do
  let v ← a.world.makeChecked (.takesNoChildren identifier) (.compositionFailed identifier) f
    [.list children]
  let _ ← a.world.assignOrFail v node (some childTag) .empty
  a.world.activate v
  return v

/-- Builds the component that the only section with a tag describes around the components that its
children describe. -/
def assembleComposite (childTag : String) (childRequired : Capability) (tag : String)
    (required : Capability) (source : ConfigurationSource) : Build Value := do
  let (node, identifier, e) ← ofExcept (a.compositeEntry tag required source)
  let children ← a.assembleEach childRequired (node.childrenNamed childTag)
  a.compose childTag node identifier e.factory children

end Assembler

end ComponentAssembly

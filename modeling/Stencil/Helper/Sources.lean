import Stencil.Engine.Source
import Stencil.Helper.Block

namespace Stencil.Helper

def metadataName (data : Value) : Act Value := do
  let metadata ← Act.look ((← Act.look data).get "metadata")
  return metadata.get "name"

/-- The name that loose methods and controllers go by: the namespace asked for, or the document's
name, or `main`. -/
def baseName (namespaceName data : Value) : Act Value := do
  if ← Act.truthy namespaceName then return namespaceName
  let name ← metadataName data
  if ← Act.truthy name then return name
  return .text "main"

/-- The entities of a source block, or the block of the template for each of them. A block without
source has none. -/
def eachEntity (e : Engine) (options : Entries) (source namespaceName validTypes data : Value)
    (block : Option Block) : Act Value := do
  let code := (← Act.look source).get "value"
  if !(← Act.truthy code) then
    match block with
    | some _ => return .markup []
    | none => return .list []
  let base ← baseName namespaceName data
  let validTypes ← Act.ofExcept (← Act.look validTypes).asList
  let entities ← Source.parse e.parser code options (.list validTypes)
  let look := (← get).store.look
  blockOrItems "\n" (Entity.reshape entities base look) block

def ifEntityReference (entity : Value) (name : Text) (block : Option Block) : Act Value := do
  blockOrFlag (← Act.ofExcept (Entity.hasTypeReference name (← Act.resolve entity))) block

/-- The entity is not a data type that is provided elsewhere, or the block if that is so. -/
def ifRendered (entity : Value) (block : Option Block) : Act Value := do
  let entity ← Act.resolve entity
  let native ← if Entity.isData entity then Act.ofExcept (Entity.isNative entity) else pure false
  blockOrFlag (!native) block

end Stencil.Helper

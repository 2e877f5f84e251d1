import Stencil.Reference.TypeText
import Stencil.Value.Iterate

namespace Stencil.Reference

/-- The text of a reference: that of the first of the two fields that holds a text. -/
def refOf? (es : Entries) : Option Text :=
  match (es.get? "ref").bind Value.asText? with
  | some t => some t
  | none => (es.get? "$ref").bind Value.asText?

mutual

/-- The names of all references, in the order of the search. A mapping with a `ref` or `$ref` field is a
reference, and nothing below it is looked at; any other mapping and every list is searched from left to
right. -/
def walk : Value → List Text
  | .list vs => walkItems vs
  | .tuple vs => walkItems vs
  | .dict es =>
    match refOf? es with
    | some ref => names ref
    | none => walkEntries es
  | _ => []

def walkItems : List Value → List Text
  | [] => []
  | v :: vs => walk v ++ walkItems vs

def walkEntries : List (Key × Value) → List Text
  | [] => []
  | (_, v) :: es => walk v ++ walkEntries es

end

mutual

def hasReference (name : Text) : Value → Bool
  | .list vs => hasReferenceItems name vs
  | .tuple vs => hasReferenceItems name vs
  | .dict es =>
    match refOf? es with
    | some ref => (names ref).contains name
    | none => hasReferenceEntries name es
  | _ => false

def hasReferenceItems (name : Text) : List Value → Bool
  | [] => false
  | v :: vs => hasReference name v || hasReferenceItems name vs

def hasReferenceEntries (name : Text) : List (Key × Value) → Bool
  | [] => false
  | (_, v) :: es => hasReference name v || hasReferenceEntries name es

end

section

variable {m : Type → Type} [Monad m] (accepts : Text → Bool) (onMatch : Text → m Unit)

def note (found : List Text) (name : Text) : m (List Text) := do
  if found.contains name || !accepts name then return found
  onMatch name
  return found ++ [name]

mutual

/-- Searches a value and reports each name when it is found. -/
def discover : Value → List Text → m (List Text)
  | .list vs, found => discoverItems vs found
  | .tuple vs, found => discoverItems vs found
  | .dict es, found =>
    match refOf? es with
    | some ref => (names ref).foldlM (note accepts onMatch) found
    | none => discoverEntries es found
  | _, found => pure found

def discoverItems : List Value → List Text → m (List Text)
  | [], found => pure found
  | v :: vs, found => do discoverItems vs (← discover v found)

def discoverEntries : List (Key × Value) → List Text → m (List Text)
  | [], found => pure found
  | (_, v) :: es, found => do discoverEntries es (← discover v found)

end

end

end Stencil.Reference

namespace Stencil

structure Resolver where
  /-- Every name is, unless it is built in or reserved. -/
  includeAll : Bool := false
  /-- Names that are of interest in any case. -/
  allowed : List Text := []
  /-- The names of the document's transfer types, in small letters. -/
  transferTypes : List Text := []

namespace Resolver

def reserved : List Text :=
  ["Instance", "InstanceProvider", "Pageable"].map String.toList

def transferTypesOf (context : Value) : List Text :=
  match (((context.get "spec").get "entities").get "types").items? with
  | some types => types.filterMap fun entity =>
      match (entity.get "type").asText?, (entity.get "name").asText? with
      | some type, some name =>
        if type = "dto" && !name.isEmpty then some (Text.lower name) else none
      | _, _ => none
  | none => []

/-- A resolver over a document; `allowed` holds the names that are of interest in any case. -/
def make (context : Value) (includeAll : Bool) (allowed : List Value) : Except Fault Resolver := do
  return ⟨includeAll, ← Value.memberTexts allowed, transferTypesOf context⟩

def isTransferType (r : Resolver) (name : Text) : Bool :=
  r.transferTypes.contains (Text.lower name)

def accepts (r : Resolver) (name : Text) : Bool :=
  if name.isEmpty || Reference.isBuiltin name || reserved.contains name then false
  else r.includeAll || r.allowed.contains name || r.isTransferType name

def resolve (r : Resolver) (v : Value) : List Text :=
  Id.run (Reference.discover r.accepts (fun _ => pure ()) v [])

/-- The names that are reported, in the order of the reports, together with the result. -/
def resolveReporting (r : Resolver) (v : Value) : List Text × List Text :=
  Id.run ((Reference.discover r.accepts (fun name => modify (· ++ [name])) v [] :
    StateM (List Text) (List Text)).run [])

end Resolver

end Stencil

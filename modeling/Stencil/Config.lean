import Stencil.Document.Reader
import Stencil.Registry
import Stencil.Target.Basic
import Stencil.Value.Iterate

namespace Stencil

structure Config where
  baseDirectory : Value := .null
  language : Value := .text "default"
  options : Value := .dict []
  tidy : Value := .bool false
  autoescape : Value := .bool false

namespace Config

def settings : List Text :=
  ["base_dir", "language", "options", "tidy", "autoescape"]

def extension : Text := ".json"

def readFileBy (reader : Reader) (d : Disk) (p : Path) : Except Fault Entries := do
  if !(← d.exists p) then throw (.config (.notFound p.toText))
  if Text.lower p.suffix ≠ extension then throw (.config (.notJson p.toText))
  match d.read p with
  | .error _ => throw (.config (.unreadable p.toText))
  | .ok bytes =>
    match Text.decode? bytes with
    | none => throw (.general .undecodable)
    | some t =>
      match reader (Text.normalizeNewlines t) with
      | .ok (.dict es) => return es
      | .ok _ => throw (.config (.notObject p.toText))
      | .error .refused => throw (.config (.invalidJson p.toText))
      | .error (.broken cause) => throw (.general cause)

def readFile : Disk → Path → Except Fault Entries :=
  readFileBy .json

/-- The mapping that a value stands for: a mapping itself, or one given by its pairs. -/
def mappingOf (v : Value) : Except Fault Entries :=
  match v with
  | .dict es => .ok es
  | _ => do
    return Entries.ofList (← (← v.iterate).mapM fun pair => do
      match ← pair.iterate with
      | [k, w] =>
        match k.asKey? with
        | some k => return (k, w)
        | none => throw (.general .wrongType)
      | _ => throw (.general .badValue))

/-- Overrides one entry. Null overrides nothing, and options are overridden one by one. -/
def override (es : Entries) (name : Key) (v : Value) : Except Fault Entries :=
  match v with
  | .null => .ok es
  | _ =>
    if name = .text "options" then
      match ((Entries.get? name es).getD .null).orElse (.dict []), v with
      | .dict old, .dict new => .ok (Entries.set name (.dict (Entries.update old new)) es)
      | _, _ => .error (.general .wrongType)
    else .ok (Entries.set name v es)

def isSetting : Key → Bool
  | .text t => settings.contains t
  | _ => false

/-- The options with further ones from entries that are no settings. -/
def optionsOf (es : Entries) : Except Fault Value := do
  let further := es.filter fun (k, _) => !isSetting k
  let given := (Entries.get? (.text "options") es).getD (.dict [])
  if further.isEmpty then return given
  return .dict (Entries.update (← mappingOf (given.orElse (.dict []))) further)

def ofEntries (es : Entries) : Except Fault Config := do
  let setting (name : Text) (default : Value) : Value := (Entries.get? (.text name) es).getD default
  let standard : Config := {}
  return {
    baseDirectory := setting "base_dir" standard.baseDirectory
    language := setting "language" standard.language
    options := ← optionsOf es
    tidy := setting "tidy" standard.tidy
    autoescape := setting "autoescape" standard.autoescape }

/-- The configuration of a file with overrides. An empty path names no file. -/
def load (d : Disk) (file : Text) (overrides : Entries) : Except Fault Config := do
  let es ← if file.isEmpty then pure [] else readFile d (Path.parse file)
  ofEntries (← overrides.foldlM (fun es (name, v) => override es name v) es)

end Config

namespace Target

def languageOf (v : Value) : Except Fault Language :=
  match v.asText? with
  | some t => Registry.standard.get t
  | none => .error (.general .noAttribute)

def pathOf (v : Value) : Except Fault Path :=
  match v.asText? with
  | some t => .ok (Path.parse t)
  | none => .error (.general .wrongType)

def ofConfig (c : Config) (parser : Option SourceParser := none) : Except Fault Target := do
  if !c.baseDirectory.truthy then throw (.config .noBaseDirectory)
  let language ← languageOf c.language
  let base ← pathOf c.baseDirectory
  let options := c.options.orElse (.dict [])
  let t : Target := { base, options, language, parser, autoescape := c.autoescape.truthy }
  return if c.tidy.truthy then t.tidied else t

end Target

end Stencil

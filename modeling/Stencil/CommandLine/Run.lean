import Stencil.CommandLine.Invocation
import Stencil.CommandLine.Markup
import Stencil.Config
import Stencil.Document.Loading
import Stencil.Log
import Stencil.Target.Pipeline

namespace Stencil.CommandLine

/-- Something to show on the console, as markup. -/
inductive Output
  | message (markup : Text)
  | table (title : Option Text) (columns : List Text) (rows : List (List Text))

abbrev Line := List Text

def Output.lines : Output → Except Fault (List Line)
  | message t => do return [[← Markup.plain t]]
  | table title columns rows => do
    let rows ← rows.mapM fun row => row.mapM Markup.plain
    return (title.toList.map fun t => [t]) ++ columns :: rows

inductive Ending
  | returned (code : Nat)
  | stopped (why : Stop)
  | failed (f : Fault)

structure Report where
  lines : List Line := []
  ending : Ending

/-- Shows outputs one after the other; one that cannot be shown ends the program. -/
def Report.ofOutputs (code : Nat) : List Output → Report
  | [] => { ending := .returned code }
  | o :: outputs =>
    match o.lines with
    | .error f => { ending := .failed f }
    | .ok lines =>
      let r := ofOutputs code outputs
      { r with lines := lines ++ r.lines }

def languagesTable : Output :=
  .table (some "Supported languages") ["Language", "Aliases"]
    (Registry.standard.names.map fun (language, names) => [language, Text.join ", " names.tail])

def filesTable (files : List (Text × WriteMode × Text)) : Output :=
  .table none ["File", "Mode", "Permissions"]
    (files.map fun (filename, mode, permissions) => [filename, mode.token, permissions])

def overrides (g : Generation) : Entries :=
  let given (t : Option Text) : Value := (t.map .text).getD .null
  [(.text "base_dir", given g.baseDirectory), (.text "language", given g.language),
    (.text "tidy", if g.tidy then .bool true else .null)]

def loadShared (fetch : Request → Reply) (source : Text) : Work Value := do
  Work.ofAct (Act.share (← Document.ofSource fetch source).value)

def present (t : Option Text) : Option Text :=
  t.filter (!·.isEmpty)

/-- Generates files, and writes them if there is a directory for them and it is no dry run. -/
def generate (fetch : Request → Reply) (g : Generation) : Work (List Output) := do
  let config ← Work.ofExcept (Config.load (← get).disk (g.config.getD []) (overrides g))
  let target ← Work.ofExcept (Target.ofConfig config)
  let target ← Work.ofAct target.shared
  let data ← loadShared fetch g.data
  let context ←
    match present g.context with
    | some source => loadShared fetch source
    | none => pure data
  match if g.dryRun then none else present g.output with
  | none =>
    let files ← Work.ofAct (target.generate (← get).disk data context)
    return [filesTable (files.map fun f => (f.filename, f.mode, f.permissions))]
  | some directory =>
    let assets ← target.generateInto (Path.parse directory) [] data context
    return [filesTable (assets.map fun a => (a.filename, a.mode, a.permissions)),
      .message ("✓ Wrote " ++ Text.ofNat assets.length ++ " file(s) to " ++ directory)]

/-- The places on a disk that a generation reads or writes, as far as the disk tells them. -/
def places (g : Generation) (d : Disk) : List Path :=
  let named := [some g.data, g.context, g.output, g.config, g.baseDirectory]
  let base :=
    match Config.load d (g.config.getD []) (overrides g) with
    | .ok c => c.baseDirectory.asText?
    | .error _ => none
  (named ++ [base]).filterMap fun t => (present t).map Path.parse

def perform (fetch : Request → Reply) (command : Option Command) : StateM Job Report := do
  match command with
  | none => return { ending := .returned 1 }
  | some .languages => return .ofOutputs 0 [languagesTable]
  | some (.generate g) =>
    match ← (generate fetch g).run with
    | .ok outputs => return .ofOutputs 0 outputs
    | .error f =>
      if f.isOwn then return .ofOutputs 1 [.message ("✗ Error: " ++ f.message)]
      else return { ending := .failed f }

def run (fetch : Request → Reply) (ts : List Text) : StateM Job Report := do
  match Invocation.read ts with
  | .error why => return { ending := .stopped why }
  | .ok i =>
    match ← (Work.ofDisk (Log.configure i.verbose i.logFile)).run with
    | .error f => return { ending := .failed f }
    | .ok _ => perform fetch i.command

end Stencil.CommandLine

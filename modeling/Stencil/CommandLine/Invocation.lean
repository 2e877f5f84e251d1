import Stencil.CommandLine.Grammar

namespace Stencil.CommandLine

structure Generation where
  baseDirectory : Option Text := none
  data : Text
  /-- The context document; the data document serves if there is none. -/
  context : Option Text := none
  output : Option Text := none
  language : Option Text := none
  config : Option Text := none
  tidy : Bool := false
  dryRun : Bool := false
  deriving DecidableEq

inductive Command
  | languages
  | generate (g : Generation)
  deriving DecidableEq

structure Invocation where
  verbose : Bool := false
  logFile : Option Text := none
  command : Option Command := none
  deriving DecidableEq

def commonNames : Names :=
  [("-h", .help), ("--help", .help), ("--version", .version), ("--verbose", .verbose),
    ("-v", .verbose), ("--log-file", .logFile)]

def languagesNames : Names :=
  [("-h", .help), ("--help", .help)]

def generateNames : Names :=
  [("-h", .help), ("--help", .help), ("--data", .data), ("-d", .data), ("--context", .context),
    ("-c", .context), ("--output", .output), ("-o", .output), ("--language", .language),
    ("-l", .language), ("--config", .config), ("--tidy", .tidy), ("--dry-run", .dryRun)]

namespace Command

def read (name : Text) (ts : List Text) : Except Stop (Command × Bool) := do
  if name = "languages" then
    let a ← CommandLine.read languagesNames false ts
    return (languages, a.isOdd)
  else if name = "generate" then
    let a ← CommandLine.read generateNames true ts
    let some data := a.get? .data | throw .misused
    return (generate {
      baseDirectory := a.operands.head?
      data
      context := a.get? .context
      output := a.get? .output
      language := a.get? .language
      config := a.get? .config
      tidy := a.has .tidy
      dryRun := a.has .dryRun }, a.isOdd)
  else throw .misused

end Command

namespace Invocation

/-- Reads a command line. What is not understood is an error in the end, but a question is answered
before. -/
def read (ts : List Text) : Except Stop Invocation := do
  let (a, command) ← readCommand commonNames (ts.length + 1) {} (← markAll commonNames ts)
  let (command, isOdd) ←
    match command with
    | none => pure (none, false)
    | some (name, ts) => do
      let (c, isOdd) ← Command.read name ts
      pure (some c, isOdd)
  if a.isOdd || isOdd then throw .misused
  return ⟨a.has .verbose, a.get? .logFile, command⟩

end Invocation

end Stencil.CommandLine

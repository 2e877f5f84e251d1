import Stencil.Text.Word

namespace Stencil.CommandLine

inductive Opt
  | help
  | version
  | verbose
  | logFile
  | data
  | context
  | output
  | language
  | config
  | tidy
  | dryRun
  deriving DecidableEq, Repr

def Opt.takesValue : Opt → Bool
  | help | version | verbose | tidy | dryRun => false
  | _ => true

def Opt.isQuestion : Opt → Bool
  | help | version => true
  | _ => false

inductive Stop
  | answered
  | misused
  deriving DecidableEq, Repr

abbrev Names := List (Text × Opt)

/-- What an argument is taken for. An option that is not known has no meaning. -/
inductive Mark
  | operand
  | separator
  | option (meaning : Option (Opt × Bool × Option Text))

def isNumber (t : Text) : Bool :=
  let behind := t.dropWhile Text.isAsciiDigit
  match behind with
  | [] => !t.isEmpty
  | c :: places => c = '.' && !places.isEmpty && places.all Text.isAsciiDigit

/-- The options that a shortened long name can stand for. -/
def completions (names : Names) (start : Text) : Names :=
  names.filter fun (name, _) => Text.startsWith start name

def markShortened (names : Names) (t : Text) : Except Stop Mark :=
  let (front, value) :=
    match Text.cut? "=" t with
    | some (front, value) => (front, some value)
    | none => (t, none)
  let found : List Mark :=
    match t with
    | '-' :: '-' :: _ =>
      (completions names front).map fun (_, o) => .option (some (o, false, value))
    | _ =>
      match names.lookup (t.take 2) with
      | some o => [.option (some (o, true, some (t.drop 2)))]
      | none => []
  match found with
  | _ :: _ :: _ => .error .misused
  | [m] => .ok m
  | [] => .ok (if isNumber t.tail || t.contains ' ' then .operand else .option none)

/-- What an argument is taken for. The flag of an option tells that it is a short one with its value
in the same argument. -/
def mark (names : Names) (t : Text) : Except Stop Mark :=
  match t with
  | '-' :: _ :: _ =>
    match names.lookup t, Text.cut? "=" t with
    | some o, _ => .ok (.option (some (o, false, none)))
    | none, some (front, value) =>
      match names.lookup front with
      | some o => .ok (.option (some (o, false, some value)))
      | none => markShortened names t
    | none, none => markShortened names t
  | _ => .ok .operand

/-- The marks of all arguments. Everything behind the first pair of dashes is an operand. -/
def markAll (names : Names) : List Text → Except Stop (List (Text × Mark))
  | [] => .ok []
  | t :: ts =>
    if t = "--" then .ok ((t, .separator) :: ts.map fun t => (t, .operand))
    else do
      let m ← mark names t
      return (t, m) :: (← markAll names ts)

structure Found where
  options : List (Opt × Text) := []
  isOdd : Bool := false
  following : List (Text × Mark)

def apart (o : Opt) (following : List (Text × Mark)) : Except Stop Found :=
  if o.takesValue then
    match following with
    | (t, .operand) :: following => .ok { options := [(o, t)], following }
    | _ => .error .misused
  else .ok { options := [(o, [])], following }

/-- An option with a text behind it in the same argument: its value, or further options. -/
def joined (names : Names) (o : Opt) (t : Text) (following : List (Text × Mark)) :
    Except Stop Found :=
  if o.takesValue then .ok { options := [(o, t)], following }
  else
    match t with
    | [] => .error .misused
    | c :: rest =>
      if c = '-' then .error .misused
      else
        match names.lookup ['-', c] with
        | none => .ok { options := [(o, [])], isOdd := true, following }
        | some next => do
          let found ←
            match rest with
            | [] => apart next following
            | '=' :: value =>
              if next.takesValue then .ok { options := [(next, value)], following }
              else .error .misused
            | _ => joined names next rest following
          return { found with options := (o, []) :: found.options }

def optionsOf (names : Names) (o : Opt) (isJoined : Bool) (value : Option Text)
    (following : List (Text × Mark)) : Except Stop Found :=
  match value with
  | none => apart o following
  | some t =>
    if isJoined then joined names o t following
    else if o.takesValue then .ok { options := [(o, t)], following }
    else .error .misused

structure Arguments where
  options : List (Opt × Text) := []
  operands : List Text := []
  isOdd : Bool := false

namespace Arguments

def get? (a : Arguments) (o : Opt) : Option Text :=
  a.options.reverse.lookup o

def has (a : Arguments) (o : Opt) : Bool :=
  (a.get? o).isSome

end Arguments

/-- Reads marked arguments with at most one operand if operands are allowed. A question ends the
reading. -/
def readFrom (names : Names) : Nat → Bool → Arguments → List (Text × Mark) → Except Stop Arguments
  | 0, _, _, _ => .error .misused
  | _, _, a, [] => .ok a
  | n + 1, operandAllowed, a, (t, m) :: following =>
    match m with
    | .option none => readFrom names n operandAllowed { a with isOdd := true } following
    | .option (some (o, isJoined, value)) => do
      let found ← optionsOf names o isJoined value following
      if found.options.any fun (o, _) => o.isQuestion then throw .answered
      readFrom names n operandAllowed
        { a with options := a.options ++ found.options, isOdd := a.isOdd || found.isOdd }
        found.following
    | .separator =>
      if operandAllowed then
        match following with
        | (t, _) :: following =>
          readFrom names n false { a with operands := a.operands ++ [t] } following
        | [] => .ok a
      else readFrom names n false { a with isOdd := true } following
    | .operand =>
      if operandAllowed then
        let following :=
          match following with
          | (_, .separator) :: rest => rest
          | _ => following
        readFrom names n false { a with operands := a.operands ++ [t] } following
      else readFrom names n false { a with isOdd := true } following

def read (names : Names) (operandAllowed : Bool) (ts : List Text) : Except Stop Arguments := do
  readFrom names (ts.length + 1) operandAllowed {} (← markAll names ts)

def readCommand (names : Names) : Nat → Arguments → List (Text × Mark) →
    Except Stop (Arguments × Option (Text × List Text))
  | 0, _, _ => .error .misused
  | _, a, [] => .ok (a, none)
  | n + 1, a, (t, m) :: following =>
    match m with
    | .option none => readCommand names n { a with isOdd := true } following
    | .option (some (o, isJoined, value)) => do
      let found ← optionsOf names o isJoined value following
      if found.options.any fun (o, _) => o.isQuestion then throw .answered
      readCommand names n
        { a with options := a.options ++ found.options, isOdd := a.isOdd || found.isOdd }
        found.following
    | .separator => .error .misused
    | .operand => .ok (a, some (t, following.map Prod.fst))

end Stencil.CommandLine

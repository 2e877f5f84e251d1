import Stencil.Fault
import Stencil.Json.Parser
import Stencil.Yaml.Parser

namespace Stencil

/-- Why a reader gives no value: the text is refused as none of its format, or the reader itself
breaks down on it. -/
inductive Misreading
  | refused
  | broken (cause : GeneralFault)

abbrev Reader := Text → Except Misreading Value

namespace Reader

def json : Reader := fun t =>
  match Json.parse? t with
  | some v => .ok v
  | none => .error .refused

/-- The built-in reader breaks down on a number without digits. Documents are told of any `Readers`. -/
def yaml : Reader := fun t =>
  match Yaml.parse t with
  | .ok v => .ok v
  | .error .malformed => .error .refused
  | .error .noNumber => .error (.broken .badValue)

end Reader

structure Readers where
  yaml : Reader := .yaml
  json : Reader := .json

end Stencil

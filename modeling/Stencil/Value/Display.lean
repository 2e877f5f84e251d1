import Stencil.Decimal.Notation
import Stencil.Text.Quoted
import Stencil.Value.Basic

namespace Stencil

namespace Key

def shown : Key → Text
  | null => "None"
  | bool b => if b then "True" else "False"
  | int n => Text.ofInt n
  | float x => Text.ofFloat x
  | text t => Text.quoted t

end Key

namespace Value

/-- Shows a list of one item with a comma behind it, which is the mark of a tuple. -/
def tupleText : List Text → Text
  | [t] => '(' :: t ++ ",)"
  | ts => '(' :: Text.join ", " ts ++ ")"

mutual

/-- The text of a value inside a container, where a text stands in quotes. -/
def shown : Value → Text
  | null => "None"
  | undefined => "Undefined"
  | bool b => if b then "True" else "False"
  | int n => Text.ofInt n
  | float x => Text.ofFloat x
  | text t => Text.quoted t
  | markup t => "Markup(" ++ Text.quoted t ++ ")"
  | list vs => '[' :: Text.join ", " (shownItems vs) ++ "]"
  | tuple vs => tupleText (shownItems vs)
  | view vs => "dict_items([" ++ Text.join ", " (shownItems vs) ++ "])"
  | dict es => '{' :: Text.join ", " (shownEntries es) ++ ['}']
  | object _ => "<object>"
  | ref _ => "..."
  | function _ => "<function>"
  | method _ _ => "<method>"

def shownItems : List Value → List Text
  | [] => []
  | v :: vs => shown v :: shownItems vs

def shownEntries : List (Key × Value) → List Text
  | [] => []
  | (k, v) :: es => (k.shown ++ ": " ++ shown v) :: shownEntries es

end

def display : Value → Text
  | undefined => []
  | text t => t
  | markup t => t
  | v => shown v

def displayPresent (v : Value) : Text :=
  if v.isMissing then [] else v.display

def displayTrue (v : Value) : Text :=
  if v.truthy then v.display else []

end Value

end Stencil

import Stencil.Json.Printer
import Stencil.Name.Style
import Stencil.Value.Display

namespace Stencil.Helper

/-- The part of a name between the first two slashes, or the whole name if it has none. -/
def assetName (t : Text) : Text :=
  ((t.splitOn '/')[1]?).getD t

def dashify (t : Text) : Text :=
  Text.substitute '/' '-' (Text.substitute '_' '-' t)

def casings : List (Text × (Text → Text)) :=
  [("lowercase", Text.lower), ("uppercase", Text.upper), ("lowerFirst", Text.lowerFirst),
    ("upperFirst", Text.upperFirst), ("kebab", Name.toKebab), ("kebabCase", Name.toKebab),
    ("snakeCase", Name.toSnake), ("camelCase", Name.toCamel), ("pascalCase", Name.toPascal),
    ("dashify", dashify), ("assetName", assetName)]

/-- What is written for a value: a missing one is nothing. -/
def plain (v : Value) : Value :=
  if v.isMissing then .null else v

def json (v : Value) : Except Fault Text :=
  Json.compact (plain v)

def jsonString (v : Value) : Except Fault Text :=
  (json v).map Json.literal

def jsonPretty (v : Value) : Except Fault Text :=
  Json.pretty (plain v)

/-- The first value that is there and true, or an empty text. -/
def firstOf (truthy : Value → Bool) (vs : List Value) : Value :=
  (vs.find? truthy).getD (.text [])

def curly (opening : Bool) : Text :=
  if opening then ['{'] else ['}']

/-- One side of a block that is cut at the first `||`. -/
def side (first : Bool) (t : Text) : Text :=
  let (left, right) := Text.partition "||" t
  if first then left else right

end Stencil.Helper

import Stencil.Name.Style

namespace Stencil

structure Sanitizer where
  reserved : List Text
  builtins : List Text

namespace Sanitizer

def isReserved (s : Sanitizer) (name : Text) : Bool :=
  s.reserved.contains name

def isBuiltin (s : Sanitizer) (name : Text) : Bool :=
  s.builtins.contains name

def isNameChar (c : Char) : Bool :=
  Text.isAsciiAlphanumeric c || c = '_' || c = '-'

/-- Puts underscores for other characters, trims them off both ends, and falls back on `value`. -/
def clean (name : Text) : Text :=
  let kept := Text.trim (fun c => c = '_' || c = '-') (name.map fun c => if isNameChar c then c else '_')
  if kept.isEmpty then "value" else kept

/-- An underscore in front of a name that begins with a digit. -/
def guardDigit : Text → Text
  | [] => []
  | c :: name => if Text.isAsciiDigit c then '_' :: c :: name else c :: name

def sanitize (s : Sanitizer) (style : Style) (suffix : Text) (name : Text) : Text :=
  let converted := guardDigit (Name.convert style (clean name))
  if s.isReserved converted then converted ++ suffix else converted

end Sanitizer

end Stencil

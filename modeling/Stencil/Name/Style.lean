import Stencil.Name.Words
import Stencil.Text.Case

namespace Stencil

inductive Style
  | snake
  | camel
  | pascal
  | kebab
  | screaming
  deriving DecidableEq, Repr

namespace Name

def lowerWord (word : Text) : Text :=
  word.map Char.toLower

def capitalize : Text → Text
  | [] => []
  | c :: word => c.toUpper :: lowerWord word

def toSnake (t : Text) : Text :=
  Text.join "_" ((splitWords t).map lowerWord)

def toKebab (t : Text) : Text :=
  Text.join "-" ((splitWords t).map lowerWord)

def toCamel (t : Text) : Text :=
  match splitWords t with
  | [] => []
  | word :: words => lowerWord word ++ (words.map capitalize).flatten

def toPascal (t : Text) : Text :=
  Text.upperFirst (toCamel t)

def toScreaming (t : Text) : Text :=
  (toSnake t).map Char.toUpper

def convert : Style → Text → Text
  | .snake => toSnake
  | .camel => toCamel
  | .pascal => toPascal
  | .kebab => toKebab
  | .screaming => toScreaming

end Name

end Stencil

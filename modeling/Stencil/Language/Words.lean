import Stencil.Name.Sanitizer

namespace Stencil

/-- A language that code is written in; `plain` follows the conventions of Java and TypeScript and
knows no reserved words. -/
inductive Language
  | plain
  | go
  | python
  deriving DecidableEq, Repr

namespace Language

def goReserved : List Text :=
  ["break", "case", "chan", "const", "continue", "default", "defer", "else", "fallthrough", "for",
    "func", "go", "goto", "if", "import", "interface", "map", "package", "range", "return",
    "select", "struct", "switch", "type", "var"].map String.toList

def goBuiltins : List Text :=
  ["any", "bool", "byte", "complex64", "complex128", "error", "float32", "float64", "int", "int8",
    "int16", "int32", "int64", "rune", "string", "uint", "uint8", "uint16", "uint32", "uint64",
    "uintptr"].map String.toList

def pythonReserved : List Text :=
  ["False", "None", "True", "and", "as", "assert", "async", "await", "break", "class", "continue",
    "def", "del", "elif", "else", "except", "finally", "for", "from", "global", "if", "import",
    "in", "is", "lambda", "nonlocal", "not", "or", "pass", "raise", "return", "try", "while",
    "with", "yield"].map String.toList

def pythonBuiltins : List Text :=
  ["int", "float", "str", "bool", "list", "dict", "set", "tuple", "bytes", "bytearray",
    "frozenset", "object", "complex"].map String.toList

def sanitizer : Language → Sanitizer
  | plain => ⟨[], []⟩
  | go => ⟨goReserved, goBuiltins⟩
  | python => ⟨pythonReserved, pythonBuiltins⟩

def identifier (l : Language) (style : Style) (name : Text) : Text :=
  l.sanitizer.sanitize style "_" name

end Language

end Stencil

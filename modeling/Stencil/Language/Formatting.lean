import Stencil.Language.Words
import Stencil.Value.Basic

namespace Stencil

/-- The name of a type: the text itself, or the first true entry among `ref`, `$ref` and `type` of a
mapping, or among `ref` and `type` of an object, if it is a text. -/
def typeName (v : Value) : Text :=
  if v.truthy then
    match v with
    | .text t => t
    | .markup t => t
    | .dict _ => (((v.get "ref").orElse (v.get "$ref")).orElse (v.get "type")).asText?.getD []
    | _ => ((v.read "ref").orElse (v.read "type")).asText?.getD []
  else []

/-- A text between double quotes: backslashes and double quotes get a backslash in front. -/
def escapeLiteral (t : Text) : Text :=
  Text.replace "\"" "\\\"" (Text.replace "\\" "\\\\" t)

/-- Reads an escaped text up to its end; a quote or a backslash that stands alone is refused. -/
def unescapeLiteral? : Text → Option Text
  | [] => some []
  | '\\' :: '\\' :: t => (unescapeLiteral? t).map ('\\' :: ·)
  | '\\' :: '"' :: t => (unescapeLiteral? t).map ('"' :: ·)
  | c :: t => if c = '\\' || c = '"' then none else (unescapeLiteral? t).map (c :: ·)

namespace Language

def typeNamed (l : Language) (name : Text) : Text :=
  match l with
  | plain => if name.isEmpty then "void" else Text.upperFirst name
  | go =>
    if name.isEmpty then "void"
    else if l.sanitizer.isBuiltin name then name else l.identifier .pascal name
  | python =>
    if name.isEmpty then "None"
    else if l.sanitizer.isBuiltin name then name else l.identifier .pascal name

def type (l : Language) (v : Value) : Text :=
  l.typeNamed (typeName v)

def returnType (l : Language) (v : Value) : Text :=
  if v.truthy then l.type v
  else
    match l with
    | python => "None"
    | _ => "void"

def variableName (l : Language) (v : Value) : Text :=
  match l with
  | plain => Text.lowerFirst (l.type v)
  | go => if (typeName v).isEmpty then "void" else l.identifier .camel (typeName v)
  | python => if (typeName v).isEmpty then [] else l.identifier .snake (typeName v)

def constant (l : Language) (t : Text) : Text :=
  match l with
  | python => if t.isEmpty then [] else l.identifier .screaming t
  | _ => Text.upper t

def method (l : Language) (t : Text) : Text :=
  match l with
  | python => if t.isEmpty then [] else l.identifier .snake t
  | _ => t

def comment (_ : Language) (t : Text) : Text :=
  t

def packageName (l : Language) (t : Text) : Text :=
  match l with
  | plain => Text.lower t
  | go => (Text.lower t).filter fun c => Text.isAsciiLower c || Text.isAsciiDigit c
  | python => if t.isEmpty then [] else l.identifier .snake t

def literal (l : Language) (t : Text) : Text :=
  match l with
  | plain => t
  | _ => escapeLiteral t

def isFlag (l : Language) (v : Value) : Bool :=
  let name := Text.lower (typeName v)
  match l with
  | plain => name = "boolean"
  | go => false
  | python => name = "boolean" || name = "bool"

def getter (l : Language) (v : Value) (property : Text) : Text :=
  match l with
  | plain => (if l.isFlag v then "is" else "get") ++ Text.upperFirst property
  | go => l.identifier .pascal property
  | python => (if l.isFlag v then "is_" else "get_") ++ l.identifier .snake property

def setter (l : Language) (property : Text) : Text :=
  match l with
  | plain => "set" ++ Text.upperFirst property
  | go => "Set" ++ l.identifier .pascal property
  | python => "set_" ++ l.identifier .snake property

def arguments (_ : Language) (ts : List Text) : Text :=
  Text.join ", " ts

def methods (_ : Language) (ts : List Text) : Text :=
  Text.join "\n\n" ts

end Language

end Stencil

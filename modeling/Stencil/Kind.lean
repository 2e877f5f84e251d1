import Stencil.Fault
import Stencil.Text.Blank
import Stencil.Text.Case
import Stencil.Value.Basic

namespace Stencil

structure Kind where
  handle : Text
  name : Text
  version : Option Text := none
  deriving DecidableEq

namespace Kind

def protocol : Text := "kapeta://"

/-- The text without white space around it and without the protocol in front. -/
def body (t : Text) : Text :=
  let t := Text.strip t
  if Text.startsWith protocol (Text.lower t) then t.drop protocol.length else t

/-- Reads a kind, which is written `[kapeta://]handle/name[:version]`; handle and name may be empty if
the text is malformed. -/
def parse (t : Text) : Kind :=
  let (path, version) :=
    match Text.cut? ":" (body t) with
    | some (path, version) => (path, if version.isEmpty then none else some version)
    | none => (body t, none)
  match Text.cut? "/" path with
  | some (handle, name) => ⟨handle, name, version⟩
  | none => ⟨[], path, version⟩

/-- `handle/name` in small letters, and nothing if one of them is missing. -/
def fullName (k : Kind) : Text :=
  if k.handle.isEmpty || k.name.isEmpty then [] else Text.lower (k.handle ++ '/' :: k.name)

def normalized (k : Kind) : Text :=
  let version : Text :=
    match k.version with
    | some v => if v.isEmpty then [] else ':' :: v
    | none => []
  Text.lower (protocol ++ k.handle ++ '/' :: k.name ++ version)

def normalize (t : Text) : Text :=
  (parse t).normalized

/-- What a request asks for: a beginning if there is a star at its end, exactly a version if there is
one, and otherwise a handle and a name. -/
inductive Request
  | starting (start : Text)
  | exactly (kind : Text)
  | named (fullName : Text)
  deriving DecidableEq

def Request.ofLower (t : Text) : Request :=
  if Text.endsWith "*" t then
    let start := t.dropLast
    .starting ((Text.after? protocol start).getD start)
  else
    let (left, right) := Text.partition protocol t
    if (left ++ right).contains ':' then .exactly (normalize t) else .named (parse t).fullName

def Request.parse (t : Text) : Request :=
  ofLower (Text.lower t)

def Request.admits (r : Request) (k : Kind) : Bool :=
  match r with
  | starting start => Text.startsWith start k.fullName
  | exactly kind => kind = k.normalized
  | named fullName => fullName = k.fullName

/-- The kind text of a resource, a mapping or an object, unless it is empty or no text. -/
def ofResource? (resource : Value) : Option Text :=
  if resource.truthy then
    match (resource.read "kind").asText? with
    | some [] => none
    | kind => kind
  else none

def isMatch (requested : Text) (resource : Value) : Bool :=
  match ofResource? resource with
  | some kind => (Request.parse requested).admits (parse kind)
  | none => false

/-- The resources that answer the request, in order. Through `look` a resource is seen. -/
def filter (requested : Text) (resources : List Value) (look : Value → Value := id) : List Value :=
  resources.filter fun resource => isMatch requested (look resource)

def has (requested : Text) (resources : List Value) : Bool :=
  resources.any (isMatch requested)

end Kind

end Stencil

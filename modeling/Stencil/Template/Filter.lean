import Stencil.Template.Access
import Stencil.Template.Check
import Stencil.Template.Renderer
import Stencil.Value.Arithmetic

namespace Stencil.Template

/-- The text that is written for a value: escaped if that is asked for, unless it is marked as
escaped already. -/
def written (autoescape : Bool) (v : Value) : Text :=
  if autoescape then
    match v with
    | .markup t => t
    | _ => Text.escapeMarkup v.display
  else v.display

def isMarkup : Value → Bool
  | .markup _ => true
  | _ => false

/-- Puts values together. Where one of them is marked as escaped the others are escaped, if that is
asked for. -/
def joined (autoescape : Bool) (sep : Value) (vs : List Value) : Value :=
  if autoescape && (isMarkup sep || vs.any isMarkup) then
    .markup (Text.join (written true sep) (vs.map (written true)))
  else .text (Text.join sep.display (vs.map Value.display))

/-- The part of a value that a path of names and numbers leads to. -/
def partAt (path : List Text) (v : Value) : Act Value :=
  path.foldlM (fun v name =>
    match Text.digits? 10 name with
    | some n => itemOf v (.int n)
    | none => itemOf v (.text name)) v

def joinFilter (autoescape : Bool) (b : Helper.Bound) : Act Value := do
  let items ← Act.ofExcept (← Act.look (b.get "value")).iterate
  let items ←
    match b.get "attribute" with
    | .null => pure items
    | .int n => items.mapM fun v => itemOf v (.int n)
    | v => items.mapM (partAt (v.display.splitOn '.'))
  return joined autoescape (← Act.resolve (b.get "d")) (← items.mapM Act.resolve)

def lengthOf (v : Value) : Except Fault Nat :=
  match v with
  | .int _ => .error (.general .wrongType)
  | _ => v.iterate.map List.length

def ownSignature (name : Text) : Helper.Signature :=
  if name = "join" then
    { parameters := Helper.required ["value"] ++ Helper.optional "d" (.text []) ++
        Helper.optional "attribute" }
  else if name = "default" || name = "d" then
    { parameters := Helper.required ["value"] ++ Helper.optional "default_value" (.text []) ++
        Helper.optional "boolean" (.bool false) }
  else { parameters := Helper.required ["value"] }

/-- Applies a filter to operands, of which the first is the value in front of it. -/
def applyFilter (e : Surroundings) (data : Value) (name : Text) (a : Helper.Arguments) : Act Value := do
  if Helper.filterNames.contains name then
    match Helper.find? name with
    | some h => e.call data h a
    | none => Act.fail .templateRuntime
  else if ownFilters.contains name then
    let b ← Act.ofExcept ((ownSignature name).bind a)
    let v := b.get "value"
    if name = "join" then joinFilter e.autoescape b
    else if name = "default" || name = "d" then
      match v with
      | .undefined => return b.get "default_value"
      | _ =>
        if (← Act.truthy (b.get "boolean")) && !(← Act.truthy v) then return b.get "default_value"
        else return v
    else
      let looked ← Act.look v
      if name = "first" then return ((← Act.ofExcept looked.iterate).head?).getD .undefined
      else return .int (← Act.ofExcept (lengthOf looked))
  else Act.fail .templateRuntime

def againstOne (values : List Value) (f : Value → Except Fault Bool) : Except Fault Bool :=
  match values with
  | [w] => f w
  | _ => .error (.general .wrongType)

def alone (values : List Value) (b : Bool) : Except Fault Bool :=
  if values.isEmpty then .ok b else .error (.general .wrongType)

def isIterable (v : Value) : Bool :=
  match v.iterate with
  | .ok _ => true
  | .error _ => false

def applyTest (name : Text) (v : Value) (values : List Value) : Except Fault Bool :=
  let isUndefined := v matches .undefined
  if name = "defined" then alone values (!isUndefined)
  else if name = "undefined" then alone values isUndefined
  else if name = "none" then alone values (v matches .null)
  else if name = "string" then alone values v.asText?.isSome
  else if name = "number" then alone values v.number?.isSome
  else if name = "integer" then alone values (v matches .int _)
  else if name = "float" then alone values (v matches .float _)
  else if name = "boolean" then alone values (v matches .bool _)
  else if name = "true" then alone values (v matches .bool true)
  else if name = "false" then alone values (v matches .bool false)
  else if name = "mapping" then alone values v.entries?.isSome
  else if name = "sequence" then
    alone values (v.items?.isSome || v.asText?.isSome || v.entries?.isSome || isUndefined)
  else if name = "iterable" then alone values (isIterable v)
  else if name = "callable" then
    alone values (match v with
      | .function _ => true
      | .method _ _ => true
      | .undefined => true
      | _ => false)
  else if name = "even" then do
    let r ← v.modulo (.int 2)
    alone values (r.same (.int 0))
  else if name = "odd" then do
    let r ← v.modulo (.int 2)
    alone values (r.same (.int 1))
  else if name = "in" then againstOne values v.isMember
  else if name = "eq" || name = "equalto" || name = "==" then
    againstOne values fun w => .ok (v.same w)
  else if name = "ne" || name = "!=" then againstOne values fun w => .ok (!v.same w)
  else .error (.general .templateRuntime)

end Stencil.Template

import Stencil.Reference.TypeText
import Stencil.Text.Escape
import Stencil.Value.Display
import Stencil.Value.Iterate

namespace Stencil.Entity

/-- The sort of an entity; what is no mapping has none. -/
def sort (entity : Value) : Value :=
  entity.get "type"

def isOf (name : Text) (entity : Value) : Bool :=
  (sort entity).asText? == some name

def isMethod (entity : Value) : Bool :=
  isOf "method" entity

def isController (entity : Value) : Bool :=
  isOf "controller" entity

def isData (entity : Value) : Bool :=
  isOf "datatype" entity || isOf "enum" entity

/-- The namespace of a controller, or the base name where that is missing or false. -/
def namespaceOr (base entity : Value) (look : Value → Value) : Value :=
  if (look (entity.get "namespace")).truthy then entity.get "namespace" else base

def withNamespace (base entity : Value) (look : Value → Value) : Value :=
  match entity with
  | .dict es => .dict (Entries.set (.text "namespace") (namespaceOr base entity look) es)
  | _ => entity

def hoisting (base : Value) (methods : List Value) : Value :=
  .dict [(.text "type", .text "controller"), (.text "name", base), (.text "path", .text "/"),
    (.text "methods", .list methods)]

/-- The entities without loose methods, in order, with a controller for those behind them. Through
`look` an entity is seen. -/
def reshape (entities : List Value) (base : Value) (look : Value → Value := id) : List Value :=
  let methods := entities.filter fun entity => isMethod (look entity)
  let others := (entities.filter fun entity => !isMethod (look entity)).map fun entity =>
    if isController (look entity) then withNamespace base (look entity) look else entity
  others ++ if methods.isEmpty then [] else [hoisting base methods]

/-- The name of an annotation, which is a text or a mapping with the text under `type`. -/
def markName? (mark : Value) : Option Text :=
  match mark with
  | .dict _ => (mark.get "type").asText?
  | _ => mark.asText?

def isNative (entity : Value) : Except Fault Bool := do
  let marks ← (entity.get "annotations").iteratePresent
  return marks.any fun mark =>
    (markName? mark).map Text.lower == some ("@native" : Text)

/-- Puts the parts of a structured type together: a name, the texts of its arguments if it has any,
and the array suffix. Behind a name that is marked as escaped the brackets are escaped. Anything but a
text goes through only as a bare name. -/
def assembleType (name : Value) (arguments : List Value) (isList : Bool) : Except Fault Value :=
  if arguments.isEmpty && !isList then .ok name
  else
    match arguments.mapM Value.asText? with
    | none => .error (.general .wrongType)
    | some ts =>
      let bracketed : Text := if ts.isEmpty then [] else '<' :: Text.join "," ts ++ ['>']
      let suffix : Text := if isList then ['[', ']'] else []
      match name with
      | .text t => .ok (.text (t ++ bracketed ++ suffix))
      | .markup t => .ok (.markup (t ++ Text.escapeMarkup bracketed ++ suffix))
      | _ => .error (.general .wrongType)

def plainTypeText (v : Value) : Value :=
  match v.asText? with
  | some _ => v
  | none => .text v.displayTrue

mutual

def typeText : Value → Except Fault Value
  | .dict es =>
    if es.isEmpty then .ok (.text [])
    else do
      let name := ((Entries.get? (.text "name") es).getD .null).orElse (.text [])
      assembleType name (← argumentTexts es) ((Entries.get? (.text "list") es).getD .null).truthy
  | v => .ok (plainTypeText v)

def typeTexts : List Value → Except Fault (List Value)
  | [] => .ok []
  | v :: vs => do
    let t ← typeText v
    return t :: (← typeTexts vs)

def typeTextsOf : Value → Except Fault (List Value)
  | .list vs => typeTexts vs
  | .tuple vs => typeTexts vs
  | v => v.iteratePresent.map fun items => items.map plainTypeText

def argumentTexts : List (Key × Value) → Except Fault (List Value)
  | [] => .ok []
  | (k, v) :: es => if Key.same (.text "generics") k then typeTextsOf v else argumentTexts es

end

def typeNames (type : Value) : Except Fault (List Text) := do
  let written ← typeText type
  if written.truthy then
    match written.asText? with
    | some t => return Reference.names t
    | none => throw (.general .noAttribute)
  else return []

/-- Some property of a data type has a type with the name in it. Later properties are not looked at
once the name is found. -/
def anyProperty (name : Text) : List Value → Except Fault Bool
  | [] => .ok false
  | property :: rest => do
    match property with
    | .dict _ =>
      if (← typeNames (property.get "type")).contains name then return true
      else anyProperty name rest
    | _ => anyProperty name rest

def hasTypeReference (name : Text) (entity : Value) : Except Fault Bool := do
  if isOf "datatype" entity then anyProperty name (← (entity.get "properties").iteratePresent)
  else return false

def loweredText (v : Value) : Except Fault Text :=
  match v.asText? with
  | some t => .ok (Text.lower t)
  | none => .error (.general .noAttribute)

/-- The capitalized name of a controller, with its namespace in front if that is different. -/
def controllerName (entity : Value) : Except Fault Text := do
  if entity matches .undefined then throw (.general .undefined)
  let name := (entity.read "name").orElse (.text [])
  let namespaceName := entity.read "namespace"
  let capital (v : Value) : Text := Text.upperFirst v.displayTrue
  if namespaceName.truthy then
    if (← loweredText namespaceName) ≠ (← loweredText name) then
      return capital namespaceName ++ capital name
  return capital name

end Stencil.Entity

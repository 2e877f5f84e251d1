import Stencil.Engine.Session
import Stencil.Value.Iterate

namespace Stencil.Template

def dictMethods : List Text :=
  ["clear", "copy", "fromkeys", "get", "items", "keys", "pop", "popitem", "setdefault", "update",
    "values"].map String.toList

def listMethods : List Text :=
  ["append", "clear", "copy", "count", "extend", "index", "insert", "pop", "remove", "reverse",
    "sort"].map String.toList

def tupleMethods : List Text :=
  ["count", "index"].map String.toList

def textMethods : List Text :=
  ["capitalize", "casefold", "center", "count", "encode", "endswith", "expandtabs", "find",
    "format", "format_map", "index", "isalnum", "isalpha", "isascii", "isdecimal", "isdigit",
    "isidentifier", "islower", "isnumeric", "isprintable", "isspace", "istitle", "isupper", "join",
    "ljust", "lower", "lstrip", "maketrans", "partition", "removeprefix", "removesuffix", "replace",
    "rfind", "rindex", "rjust", "rpartition", "rsplit", "rstrip", "split", "splitlines",
    "startswith", "strip", "swapcase", "title", "translate", "upper", "zfill"].map String.toList

def methodsOf : Value → List Text
  | .dict _ => dictMethods
  | .list _ => listMethods
  | .tuple _ => tupleMethods
  | .text _ => textMethods
  | .markup _ => textMethods
  | _ => []

/-- The method of a value, which keeps the value as it was given. -/
def methodOf? (given looked : Value) (name : Text) : Option Value :=
  if (methodsOf looked).contains name then some (.method given name) else none

/-- The field of a value, which is looked for among its methods first and then among its entries. What
is not there is undefined. -/
def fieldOf (v : Value) (name : Text) : Act Value := do
  match ← Act.look v with
  | .undefined => Act.fail .undefined
  | .object es => return (Entries.get? (.text name) es).getD .undefined
  | looked =>
    match methodOf? v looked name with
    | some m => return m
    | none => return ((looked.entries?.getD []).get? (.text name)).getD .undefined

def place? (length : Nat) (i : Int) : Option Nat :=
  let i := if i < 0 then i + length else i
  if 0 ≤ i && i < length then some i.toNat else none

def index? : Value → Option Int
  | .int n => some n
  | .bool b => some (if b then 1 else 0)
  | _ => none

/-- The item of a list or text at an index, or the entry of a mapping. -/
def entryOf? (looked index : Value) : Option Value :=
  match looked with
  | .dict es =>
    match index with
    | .undefined => none
    | _ => index.asKey?.bind fun k => Entries.get? k es
  | .list vs => (index? index).bind fun i => (place? vs.length i).bind fun i => vs[i]?
  | .tuple vs => (index? index).bind fun i => (place? vs.length i).bind fun i => vs[i]?
  | .text t =>
    (index? index).bind fun i => (place? t.length i).bind fun i => t[i]?.map fun c => .text [c]
  | .markup t =>
    (index? index).bind fun i => (place? t.length i).bind fun i => t[i]?.map fun c => .markup [c]
  | _ => none

/-- The item of a value, which is looked for among its entries first and then among its methods. -/
def itemOf (v index : Value) : Act Value := do
  match ← Act.look v with
  | .undefined => Act.fail .undefined
  | looked =>
    match entryOf? looked index with
    | some item => return item
    | none =>
      match index.asText? with
      | none => return .undefined
      | some name =>
        match looked with
        | .object es => return (Entries.get? (.text name) es).getD .undefined
        | _ => return (methodOf? v looked name).getD .undefined

def sliceOf {α : Type} (xs : List α) (start stop : Option Int) (step : Int) : List α :=
  let n : Int := xs.length
  let clamp (low high : Int) (i : Int) : Int :=
    let i := if i < 0 then i + n else i
    max low (min high i)
  let places : List Int :=
    if 0 < step then
      let first := (start.map (clamp 0 n)).getD 0
      let last := (stop.map (clamp 0 n)).getD n
      (List.range xs.length).filterMap fun k : Nat =>
        let i := first + k * step
        if i < last then some i else none
    else
      let first := (start.map (clamp (-1) (n - 1))).getD (n - 1)
      let last := (stop.map (clamp (-1) (n - 1))).getD (-1)
      (List.range xs.length).filterMap fun k : Nat =>
        let i := first + k * step
        if last < i then some i else none
  places.filterMap fun i => xs[i.toNat]?

def sliceBound (v : Value) : Act (Option Int) :=
  match v with
  | .null => return none
  | _ =>
    match index? v with
    | some i => return some i
    | none => Act.fail .wrongType

def partOf (v start stop step : Value) : Act Value := do
  let looked ← Act.look v
  let start ← sliceBound start
  let stop ← sliceBound stop
  let step := (← sliceBound step).getD 1
  if step = 0 then Act.fail .badValue
  match looked with
  | .list vs => return .list (sliceOf vs start stop step)
  | .tuple vs => return .tuple (sliceOf vs start stop step)
  | .text t => return .text (sliceOf t start stop step)
  | .markup t => return .markup (sliceOf t start stop step)
  | .undefined => Act.fail .undefined
  | _ => Act.fail .wrongType

/-- The entries that a mapping is brought up to date with: those of a mapping, or a list of pairs. -/
def updates (v : Value) : Act Entries := do
  match ← Act.look v with
  | .dict es => return es
  | looked =>
    (← Act.ofExcept looked.iterate).mapM fun pair => do
      match ← Act.ofExcept (← Act.look pair).iterate with
      | [k, w] =>
        match k.asKey? with
        | some k => return (k, w)
        | none => Act.fail .wrongType
      | _ => Act.fail .badValue

/-- A value as the key of a mapping; nothing is found under what has no value. -/
def keyOf (v : Value) : Act (Option Key) :=
  match v with
  | .undefined => return none
  | _ =>
    match v.asKey? with
    | some k => return some k
    | none => Act.fail .wrongType

/-- Changes what a reference stands for. A list or mapping outside the store has no one else who
sees it. -/
def change (v : Value) (c : Cell) : Act Unit :=
  match v with
  | .ref cell => modify fun s => { s with store := s.store.write cell c }
  | _ => return ()

def callMethod (v : Value) (name : Text) (values : List Value) (named : List (Text × Value)) :
    Act Value := do
  let looked ← Act.look v
  match looked with
  | .dict es =>
    if name = "update" then
      let more ←
        match values with
        | [] => pure []
        | [w] => updates w
        | _ => Act.fail .wrongType
      let all := more ++ named.map fun (k, w) => (Key.text k, w)
      let shared ← all.mapM fun (k, w) => do return (k, ← Act.share w)
      change v (.dict (Entries.update es shared))
      return .null
    else if !named.isEmpty then Act.fail .wrongType
    else if name = "items" && values.isEmpty then
      return .view (es.map fun (k, w) => .tuple [k.toValue, w])
    else if name = "keys" && values.isEmpty then return .list (es.map fun (k, _) => k.toValue)
    else if name = "values" && values.isEmpty then return .list (es.map Prod.snd)
    else if name = "get" then
      match values with
      | [k] => return ((← keyOf k).bind fun k => Entries.get? k es).getD .null
      | [k, default] => return ((← keyOf k).bind fun k => Entries.get? k es).getD default
      | _ => Act.fail .wrongType
    else Act.fail .wrongType
  | .list vs =>
    if name = "append" && named.isEmpty then
      match values with
      | [w] =>
        change v (.list (vs ++ [← Act.share w]))
        return .null
      | _ => Act.fail .wrongType
    else Act.fail .wrongType
  | _ => Act.fail .wrongType

end Stencil.Template

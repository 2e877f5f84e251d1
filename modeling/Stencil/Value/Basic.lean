import Stencil.Decimal.Binary
import Stencil.Text.Basic

namespace Stencil

inductive Key
  | null
  | bool (b : Bool)
  | int (n : Int)
  | float (x : Float)
  | text (t : Text)
  deriving DecidableEq

/-- A value. A `markup` text counts as already escaped; `undefined` stands for what a template
could not find; an `object` has attributes and is no mapping; a `view` shows the entries of a
mapping; a `ref` names a list or mapping that is kept in a store; a `function` is a helper, and a
`method` one of a receiver's own operations. -/
inductive Value
  | null
  | undefined
  | bool (b : Bool)
  | int (n : Int)
  | float (x : Float)
  | text (t : Text)
  | markup (t : Text)
  | list (items : List Value)
  | tuple (items : List Value)
  | view (items : List Value)
  | dict (entries : List (Key × Value))
  | object (attributes : List (Key × Value))
  | ref (cell : Nat)
  | function (name : Text)
  | method (receiver : Value) (name : Text)
  deriving Inhabited

abbrev Entries := List (Key × Value)

instance : Coe Text Key := ⟨Key.text⟩

namespace Key

def number? : Key → Option Int
  | bool b => some (if b then 1 else 0)
  | int n => some n
  | _ => none

/-- Two keys are the same if they are equal as values: truth values count as 0 and 1. -/
def same : Key → Key → Bool
  | null, null => true
  | text s, text t => s = t
  | float x, float y => x == y
  | float x, k => (k.number?.bind (Binary.ofFloat x).compareInt?) == some .eq
  | k, float x => (k.number?.bind (Binary.ofFloat x).compareInt?) == some .eq
  | k, l => k.number?.isSome && k.number? == l.number?

def toValue : Key → Value
  | null => .null
  | bool b => .bool b
  | int n => .int n
  | float x => .float x
  | text t => .text t

end Key

namespace Entries

def get? (k : Key) : Entries → Option Value
  | [] => none
  | (l, v) :: es => if k.same l then some v else get? k es

/-- Gives a key a value: in its place if it is there, and behind the others if not. -/
def set (k : Key) (v : Value) : Entries → Entries
  | [] => [(k, v)]
  | (l, w) :: es => if k.same l then (l, v) :: es else (l, w) :: set k v es

def update (es : Entries) (fs : Entries) : Entries :=
  fs.foldl (fun es (k, v) => set k v es) es

/-- The mapping in which later entries win. -/
def ofList (fs : Entries) : Entries :=
  update [] fs

end Entries

namespace Value

def asText? : Value → Option Text
  | text t => some t
  | markup t => some t
  | _ => none

def entries? : Value → Option Entries
  | dict es => some es
  | _ => none

def items? : Value → Option (List Value)
  | list vs => some vs
  | tuple vs => some vs
  | _ => none

def get (name : Text) : Value → Value
  | dict es => (Entries.get? (.text name) es).getD null
  | _ => null

/-- The field of a mapping or the attribute of an object, `null` where there is none. -/
def read (name : Text) : Value → Value
  | dict es => (Entries.get? (.text name) es).getD null
  | object es => (Entries.get? (.text name) es).getD null
  | _ => null

/-- Nothing, zero, and empty texts and containers are false. -/
def truthy : Value → Bool
  | null => false
  | undefined => false
  | bool b => b
  | int n => n ≠ 0
  | float x => x != 0
  | text t => !t.isEmpty
  | markup t => !t.isEmpty
  | list vs => !vs.isEmpty
  | tuple vs => !vs.isEmpty
  | view vs => !vs.isEmpty
  | dict es => !es.isEmpty
  | _ => true

def isMissing : Value → Bool
  | null => true
  | undefined => true
  | _ => false

def orElse (v w : Value) : Value :=
  if v.truthy then v else w

def ofTexts (ts : List Text) : Value :=
  list (ts.map text)

/-- The value as a key, unless it may change. -/
def asKey? : Value → Option Key
  | null => some .null
  | bool b => some (.bool b)
  | int n => some (.int n)
  | float x => some (.float x)
  | text t => some (.text t)
  | markup t => some (.text t)
  | _ => none

end Value

end Stencil

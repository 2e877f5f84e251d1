import Stencil.Decimal.Binary
import Stencil.Value.Basic

namespace Stencil

inductive Number
  | int (n : Int)
  | float (x : Float)

namespace Number

def ofBool (b : Bool) : Number :=
  int (if b then 1 else 0)

def toValue : Number → Value
  | int n => .int n
  | float x => .float x

/-- The order of two numbers, unless one of them is no number. -/
def compare? : Number → Number → Option Ordering
  | int m, int n => some (compare m n)
  | int m, float y => (Binary.ofFloat y).compareInt? m
  | float x, int n => ((Binary.ofFloat x).compareInt? n).map Ordering.swap
  | float x, float y =>
    if x < y then some .lt else if y < x then some .gt else if x == y then some .eq else none

def same (x y : Number) : Bool :=
  compare? x y == some .eq

end Number

namespace Value

def number? : Value → Option Number
  | bool b => some (Number.ofBool b)
  | int n => some (.int n)
  | float x => some (.float x)
  | _ => none

def numberSame (x : Number) (w : Value) : Bool :=
  (w.number?.map x.same).getD false

mutual

/-- Equality of values: numbers by their value, texts by their characters, mappings without regard
to order. -/
def same : Value → Value → Bool
  | null, w => match w with | null => true | _ => false
  | undefined, w => match w with | undefined => true | _ => false
  | bool b, w => numberSame (Number.ofBool b) w
  | int n, w => numberSame (.int n) w
  | float x, w => numberSame (.float x) w
  | text s, w => w.asText? == some s
  | markup s, w => w.asText? == some s
  | list vs, w => match w with | list ws => sameItems vs ws | _ => false
  | tuple vs, w => match w with | tuple ws => sameItems vs ws | _ => false
  | view vs, w => match w with | view ws => sameItems vs ws | _ => false
  | dict es, w => match w with | dict fs => es.length == fs.length && sameEntries es fs | _ => false
  | object es, w =>
    match w with | object fs => es.length == fs.length && sameEntries es fs | _ => false
  | ref m, w => match w with | ref n => m == n | _ => false
  | function f, w => match w with | function g => f == g | _ => false
  | method v f, w => match w with | method w g => same v w && f == g | _ => false

def sameItems : List Value → List Value → Bool
  | [], ws => ws.isEmpty
  | _ :: _, [] => false
  | v :: vs, w :: ws => same v w && sameItems vs ws

def sameEntries : List (Key × Value) → List (Key × Value) → Bool
  | [], _ => true
  | (k, v) :: es, fs =>
    (match Entries.get? k fs with | some w => same v w | none => false) && sameEntries es fs

end
end Value

end Stencil

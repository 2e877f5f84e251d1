import Stencil.Fault
import Stencil.Text.Escape
import Stencil.Value.Number

namespace Stencil

namespace Binary

def zeroLike (x : Float) : Float :=
  match ofFloat x with
  | .finite negative _ _ => assemble negative 0 0
  | .infinite negative => assemble negative 0 0
  | .nan => nanFloat

/-- The remainder of two numbers, exactly, with the sign of the first one. -/
def remainder (x y : Float) : Float :=
  match ofFloat x, ofFloat y with
  | .finite negative xm xe, .finite _ ym ye =>
    let e := min xe ye
    let r := xm * Nat.pow 2 (xe - e).toNat % (ym * Nat.pow 2 (ye - e).toNat)
    let exact :=
      if 0 ≤ e then ofQuotient negative (r * Nat.pow 2 e.toNat) 1
      else ofQuotient negative r (Nat.pow 2 (-e).toNat)
    exact.getD nanFloat
  | .finite .., .infinite _ => x
  | _, _ => nanFloat

/-- The quotient, rounded down, and the remainder with the sign of the divisor. The quotient is that
of the number without its remainder, rounded once, and then put on the whole number next to it. -/
def floorDivide (x y : Float) : Float × Float :=
  let r := remainder x y
  let q := (x - r) / y
  let (q, r) :=
    if r == 0 then (q, zeroLike y)
    else if (y < 0) != (r < 0) then (q - 1, r + y)
    else (q, r)
  let whole := q.floor
  (if q == 0 then zeroLike (x / y) else if 0.5 < q - whole then whole + 1 else whole, r)

end Binary

namespace Number

def toFloat : Number → Except Fault Float
  | int n =>
    match Binary.ofInt n with
    | some x => .ok x
    | none => .error (.general .overflow)
  | float x => .ok x

def isZero : Number → Bool
  | int n => n = 0
  | float x => x == 0

def combine (ints : Int → Int → Int) (floats : Float → Float → Float) (x y : Number) :
    Except Fault Number :=
  match x, y with
  | int m, int n => .ok (int (ints m n))
  | _, _ => do return float (floats (← x.toFloat) (← y.toFloat))

/-- The quotient as a binary number, rounded once. -/
def divide (x y : Number) : Except Fault Number :=
  if y.isZero then .error (.general .divisionByZero)
  else
    match x, y with
    | int m, int n =>
      match Binary.ofQuotient ((m < 0) != (n < 0)) m.natAbs n.natAbs with
      | some q => .ok (float q)
      | none => .error (.general .overflow)
    | _, _ => do return float ((← x.toFloat) / (← y.toFloat))

def floorDivide (x y : Number) : Except Fault (Number × Number) :=
  if y.isZero then .error (.general .divisionByZero)
  else
    match x, y with
    | int m, int n => .ok (int (Int.fdiv m n), int (Int.fmod m n))
    | _, _ => do
      let (q, r) := Binary.floorDivide (← x.toFloat) (← y.toFloat)
      return (float q, float r)

/-- A power: whole for whole numbers and an exponent that is not negative. -/
def power (x y : Number) : Except Fault Number :=
  match x, y with
  | int m, int n =>
    if 0 ≤ n then .ok (int (Int.pow m n.toNat))
    else if m = 0 then .error (.general .divisionByZero)
    else do return float (Float.pow (← x.toFloat) (← y.toFloat))
  | _, _ => do return float (Float.pow (← x.toFloat) (← y.toFloat))

end Number

namespace Value

def refused {α : Type} (v w : Value) : Except Fault α :=
  match v, w with
  | undefined, _ => .error (.general .undefined)
  | _, undefined => .error (.general .undefined)
  | _, _ => .error (.general .wrongType)

def add (v w : Value) : Except Fault Value :=
  match v.number?, w.number? with
  | some x, some y => (Number.combine (· + ·) (· + ·) x y).map Number.toValue
  | _, _ =>
    match v, w with
    | text s, text t => .ok (text (s ++ t))
    | markup s, markup t => .ok (markup (s ++ t))
    | markup s, text t => .ok (markup (s ++ Text.escapeMarkup t))
    | text s, markup t => .ok (markup (Text.escapeMarkup s ++ t))
    | list vs, list ws => .ok (list (vs ++ ws))
    | tuple vs, tuple ws => .ok (tuple (vs ++ ws))
    | _, _ => refused v w

def subtract (v w : Value) : Except Fault Value :=
  match v.number?, w.number? with
  | some x, some y => (Number.combine (· - ·) (· - ·) x y).map Number.toValue
  | _, _ => refused v w

def repeated (n : Int) (v : Value) : Option Value :=
  let times {α : Type} (xs : List α) : List α := (List.replicate n.toNat xs).flatten
  match v with
  | text t => some (text (times t))
  | markup t => some (markup (times t))
  | list vs => some (list (times vs))
  | tuple vs => some (tuple (times vs))
  | _ => none

def count? : Value → Option Int
  | bool b => some (if b then 1 else 0)
  | int n => some n
  | _ => none

def multiply (v w : Value) : Except Fault Value :=
  match v.number?, w.number? with
  | some x, some y => (Number.combine (· * ·) (· * ·) x y).map Number.toValue
  | _, _ =>
    match w.count?.bind fun n => v.repeated n, v.count?.bind fun n => w.repeated n with
    | some r, _ => .ok r
    | none, some r => .ok r
    | none, none => refused v w

def divide (v w : Value) : Except Fault Value :=
  match v.number?, w.number? with
  | some x, some y => (x.divide y).map Number.toValue
  | _, _ => refused v w

def floorDivide (v w : Value) : Except Fault Value :=
  match v.number?, w.number? with
  | some x, some y => (x.floorDivide y).map fun (q, _) => q.toValue
  | _, _ => refused v w

def modulo (v w : Value) : Except Fault Value :=
  match v.number?, w.number? with
  | some x, some y => (x.floorDivide y).map fun (_, r) => r.toValue
  | _, _ =>
    match v.asText? with
    | some _ => .error (.general .wrongType)
    | none => refused v w

def power (v w : Value) : Except Fault Value :=
  match v.number?, w.number? with
  | some x, some y => (x.power y).map Number.toValue
  | _, _ => refused v w

def negate (v : Value) : Except Fault Value :=
  match v.number? with
  | some (.int n) => .ok (int (-n))
  | some (.float x) => .ok (float (-x))
  | none => refused v v

def plus (v : Value) : Except Fault Value :=
  match v.number? with
  | some x => .ok x.toValue
  | none => refused v v

def compareTexts (s t : Text) : Ordering :=
  if s = t then .eq else if s < t then .lt else .gt

mutual

/-- The order of two values, if they have one: `none` stands for a number that is none. -/
def order? : Value → Value → Except Fault (Option Ordering)
  | list vs, w => match w with | list ws => orderItems? vs ws | _ => refused (list vs) w
  | tuple vs, w => match w with | tuple ws => orderItems? vs ws | _ => refused (tuple vs) w
  | v, w =>
    match v.number?, w.number? with
    | some x, some y => .ok (x.compare? y)
    | _, _ =>
      match v.asText?, w.asText? with
      | some s, some t => .ok (some (compareTexts s t))
      | _, _ => refused v w

/-- The order of two lists: that of the first items that differ, or else of the lengths. -/
def orderItems? : List Value → List Value → Except Fault (Option Ordering)
  | [], ws => .ok (some (if ws.isEmpty then .eq else .lt))
  | _ :: _, [] => .ok (some .gt)
  | v :: vs, w :: ws => if v.same w then orderItems? vs ws else order? v w

end

def isMember (v w : Value) : Except Fault Bool :=
  match w with
  | text t =>
    match v.asText? with
    | some s => .ok (Text.includes s t)
    | none => .error (.general .wrongType)
  | markup t =>
    match v.asText? with
    | some s => .ok (Text.includes s t)
    | none => .error (.general .wrongType)
  | list ws => .ok (ws.any v.same)
  | tuple ws => .ok (ws.any v.same)
  | view ws => .ok (ws.any v.same)
  | dict es =>
    match v.asKey? with
    | some k => .ok (Entries.get? k es).isSome
    | none =>
      match v with
      | undefined => .ok false
      | _ => .error (.general .wrongType)
  | undefined => .ok false
  | _ => .error (.general .wrongType)

end Value

end Stencil

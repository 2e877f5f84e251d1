namespace Stencil

/-- What the bits of a number say: a finite number is `mantissa * 2 ^ exponent` with a sign. -/
inductive Binary
  | nan
  | infinite (negative : Bool)
  | finite (negative : Bool) (mantissa : Nat) (exponent : Int)
  deriving DecidableEq, Repr

namespace Binary

def signBit : Nat := 0x8000000000000000

/-- The count of fractions for each exponent, which is the least mantissa with the leading bit. -/
def unitFraction : Nat := 0x10000000000000

def ofFloat (x : Float) : Binary :=
  let bits : Nat := x.toBits.toNat
  let negative : Bool := signBit ≤ bits
  let biased : Nat := bits / unitFraction % 2048
  let fraction : Nat := bits % unitFraction
  if biased = 2047 then if fraction = 0 then .infinite negative else .nan
  else if biased = 0 then .finite negative fraction (-1074)
  else .finite negative (unitFraction + fraction) ((biased : Int) - 1075)

def assemble (negative : Bool) (biased fraction : Nat) : Float :=
  Float.ofBits (UInt64.ofNat ((if negative then signBit else 0) + biased * unitFraction + fraction))

def infinity (negative : Bool) : Float :=
  assemble negative 2047 0

def nanFloat : Float :=
  assemble false 2047 (unitFraction / 2)

/-- The whole number nearest to a quotient; a half goes to the even neighbour. -/
def roundQuotient (num den : Nat) : Nat :=
  let q := num / den
  let r := num % den
  if 2 * r < den then q else if den < 2 * r then q + 1 else if q % 2 = 0 then q else q + 1

/-- The exponent of the last place that a quotient is kept to: the leading one of 53 places, but
not below the least exponent. -/
def lastPlace (num den : Nat) : Int :=
  let guess : Int := (num.log2 : Int) - (den.log2 : Int) - 52
  -- The quotient of the logarithms may be one too large.
  let scaled :=
    if 0 ≤ guess then num / (den * Nat.pow 2 guess.toNat)
    else num * Nat.pow 2 (-guess).toNat / den
  let exact := if scaled < unitFraction then guess - 1 else guess
  max exact (-1074)

/-- The number nearest to a quotient, or `none` if it is too large. -/
def ofQuotient (negative : Bool) (num den : Nat) : Option Float :=
  if num = 0 then some (assemble negative 0 0)
  else
    let e := lastPlace num den
    let m :=
      if 0 ≤ e then roundQuotient num (den * Nat.pow 2 e.toNat)
      else roundQuotient (num * Nat.pow 2 (-e).toNat) den
    -- Rounding may reach the next power of two.
    let (m, e) := if m = 2 * unitFraction then (unitFraction, e + 1) else (m, e)
    if m < unitFraction then some (assemble negative 0 m)
    else if 971 < e then none
    else some (assemble negative (e + 1075).toNat (m - unitFraction))

def ofInt (n : Int) : Option Float :=
  ofQuotient (n < 0) n.natAbs 1

def compareInt? : Binary → Int → Option Ordering
  | .nan, _ => none
  | .infinite negative, _ => some (if negative then .gt else .lt)
  | .finite negative m e, n =>
    let m : Int := if negative then -m else m
    some (if 0 ≤ e then compare n (m * Nat.pow 2 e.toNat) else compare (n * Nat.pow 2 (-e).toNat) m)

end Binary

end Stencil

import Stencil.Decimal.Binary

namespace Stencil

structure Decimal where
  digits : Nat
  exponent : Int
  deriving DecidableEq, Repr

namespace Decimal

/-- The least `j` with `den ≤ num * 10 ^ j`, looked for up to a limit. -/
def scaleUp (den : Nat) : Nat → Nat → Nat
  | 0, _ => 0
  | limit + 1, num => if den ≤ num then 0 else scaleUp den limit (num * 10) + 1

def leadingExponent (num den : Nat) : Int :=
  if den ≤ num then ((Nat.toDigits 10 (num / den)).length : Int) - 1
  else -(scaleUp den 400 num : Int)

/-- The numbers of quarter units between which everything reads back as `mantissa * 2 ^ exponent`,
and whether the ends do as well. -/
def readingInterval (mantissa : Nat) (exponent : Int) : Nat × Nat × Bool :=
  let below := if mantissa = Binary.unitFraction && -1074 < exponent then 1 else 2
  (4 * mantissa - below, 4 * mantissa + 2, mantissa % 2 = 0)

def quotient (quarters : Nat) (exponent : Int) : Nat × Nat :=
  if 2 ≤ exponent then (quarters * Nat.pow 2 (exponent - 2).toNat, 1)
  else (quarters, Nat.pow 2 (2 - exponent).toNat)

/-- The decimal on the grid of `10 ^ place` that is nearest to the number among those that read
back as it. -/
def onGrid? (mantissa : Nat) (exponent place : Int) : Option Decimal :=
  let (low, high, closed) := readingInterval mantissa exponent
  let (num, den) := quotient (4 * mantissa) exponent
  let (low, high) := ((quotient low exponent).1, (quotient high exponent).1)
  -- Everything is compared over the common denominator `den * down`.
  let up := if 0 ≤ place then Nat.pow 10 place.toNat else 1
  let down := if 0 ≤ place then 1 else Nat.pow 10 (-place).toNat
  let step := up * den
  let (num, low, high) := (num * down, low * down, high * down)
  let inside (d : Nat) : Bool :=
    let x := d * step
    (low < x || closed && low = x) && (x < high || closed && x = high)
  let d := num / step
  let below := num - d * step
  let above := (d + 1) * step - num
  match inside d, inside (d + 1) with
  | true, true =>
    some ⟨if below < above then d else if above < below then d + 1 else d + d % 2, place⟩
  | true, false => some ⟨d, place⟩
  | false, true => some ⟨d + 1, place⟩
  | false, false => none

def dropZeros : Nat → Decimal → Decimal
  | 0, d => d
  | limit + 1, d =>
    if d.digits ≠ 0 && d.digits % 10 = 0 then dropZeros limit ⟨d.digits / 10, d.exponent + 1⟩ else d

/-- The shortest decimal that reads back as `mantissa * 2 ^ exponent`, for a mantissa that is not zero.
For 1, 2, … digits the two neighbours of the number on that grid are tried, and of two that read back
the nearer one is taken. -/
def shortest (mantissa : Nat) (exponent : Int) : Decimal :=
  let (num, den) := quotient (4 * mantissa) exponent
  let lead := leadingExponent num den
  let tries := (List.range 17).map fun n : Nat => lead - (n : Int)
  dropZeros 20 ((tries.findSome? (onGrid? mantissa exponent)).getD ⟨0, 0⟩)

end Decimal

end Stencil

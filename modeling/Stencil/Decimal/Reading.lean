import Stencil.Decimal.Binary
import Stencil.Text.Word

namespace Stencil.Decimal

def digitValue (t : Text) : Nat :=
  t.foldl (fun n c => if Text.isAsciiDigit c then n * 10 + (c.toNat - '0'.toNat) else n) 0

/-- The number nearest to `digits * 10 ^ exponent`; too large numbers become infinite. Exponents
far outside the range of numbers are decided without the power. -/
def nearest (negative : Bool) (digits : Nat) (exponent : Int) : Float :=
  let size : Int := (Nat.toDigits 10 digits).length
  if digits = 0 || size + exponent < -400 then Binary.assemble negative 0 0
  else if 400 < size + exponent then Binary.infinity negative
  else
    let quotient :=
      if 0 ≤ exponent then Binary.ofQuotient negative (digits * Nat.pow 10 exponent.toNat) 1
      else Binary.ofQuotient negative digits (Nat.pow 10 (-exponent).toNat)
    quotient.getD (Binary.infinity negative)

def ofParts (negative : Bool) (whole places : Text) (exponent : Int) : Float :=
  nearest negative (digitValue (whole ++ places))
    (exponent - (places.filter Text.isAsciiDigit).length)

end Stencil.Decimal

import Stencil.Decimal.Shortest
import Stencil.Text.Numeral

namespace Stencil.Decimal

def pointed : Text → Text
  | [] => []
  | [c] => [c]
  | c :: t => c :: '.' :: t

def signedExponent (e : Int) : Text :=
  let digits := Text.ofNat e.natAbs
  (if e < 0 then '-' else '+') :: (if digits.length < 2 then '0' :: digits else digits)

/-- The text of a positive decimal: positional for exponents from -4 to 15, with a point and at least
one digit behind it, and otherwise in scientific notation with a signed exponent of at least two digits.
-/
def written (d : Decimal) : Text :=
  let digits := Text.ofNat d.digits
  let lead := d.exponent + (digits.length : Int) - 1
  if lead < -4 || 15 < lead then pointed digits ++ 'e' :: signedExponent lead
  else if lead < 0 then "0." ++ List.replicate (-lead - 1).toNat '0' ++ digits
  else
    let whole := lead.toNat + 1
    let filled := digits ++ List.replicate (whole - digits.length) '0'
    let places := filled.drop whole
    filled.take whole ++ '.' :: (if places.isEmpty then "0" else places)

end Stencil.Decimal

namespace Stencil.Text

def ofFloat (x : Float) : Text :=
  match Binary.ofFloat x with
  | .nan => "nan"
  | .infinite negative => if negative then "-inf" else "inf"
  | .finite negative m e =>
    let t : Text := if m = 0 then "0.0" else (Decimal.shortest m e).written
    if negative then '-' :: t else t

end Stencil.Text

import Stencil.Decimal.Reading
import Stencil.Text.Case
import Stencil.Text.Numeral
import Stencil.Value.Basic

namespace Stencil.Yaml

inductive Flaw
  | malformed
  /-- A number without digits. -/
  | noNumber
  deriving DecidableEq, Repr

def trueWords : List Text :=
  ["yes", "Yes", "YES", "true", "True", "TRUE", "on", "On", "ON"]

def falseWords : List Text :=
  ["no", "No", "NO", "false", "False", "FALSE", "off", "Off", "OFF"]

def nullWords : List Text :=
  ["~", "null", "Null", "NULL", ""]

/-- Words with a meaning of their own, which stand for no value. -/
def reservedWords : List Text :=
  ["=", "<<"]

def unsign : Text → Bool × Text
  | '-' :: t => (true, t)
  | '+' :: t => (false, t)
  | t => (false, t)

def isDigits : Text → Bool
  | [] => false
  | c :: t => Text.isAsciiDigit c && t.all fun c => Text.isAsciiDigit c || c = '_'

/-- One or more characters, which are underscores or satisfy a condition. -/
def isNumeral (p : Char → Bool) (t : Text) : Bool :=
  !t.isEmpty && t.all fun c => c = '_' || p c

def isBinaryDigit (c : Char) : Bool :=
  c = '0' || c = '1'

def isOctalDigit (c : Char) : Bool :=
  '0' ≤ c && c ≤ '7'

def isHexDigit (c : Char) : Bool :=
  Text.isAsciiDigit c || ('a' ≤ c && c ≤ 'f') || ('A' ≤ c && c ≤ 'F')

/-- One of the sixty numbers that may follow a colon. -/
def isSixtieth : Text → Bool
  | [c] => Text.isAsciiDigit c
  | [c, d] => '0' ≤ c && c ≤ '5' && Text.isAsciiDigit d
  | _ => false

def sexagesimal (parts : List Text) : Nat :=
  parts.foldl (fun n part => n * 60 + Decimal.digitValue part) 0

def baseValue (base : Nat) (t : Text) : Except Flaw Nat :=
  match Text.digits? base (t.filter (· ≠ '_')) with
  | some n => .ok n
  | none => .error .noNumber

def whole? (t : Text) : Option (Except Flaw Nat) :=
  match t with
  | '0' :: 'b' :: digits => if isNumeral isBinaryDigit digits then some (baseValue 2 digits) else none
  | '0' :: 'x' :: digits => if isNumeral isHexDigit digits then some (baseValue 16 digits) else none
  | ['0'] => some (.ok 0)
  | '0' :: digits => if isNumeral isOctalDigit digits then some (baseValue 8 t) else none
  | _ =>
    match t.splitOn ':' with
    | [] => none
    | first :: parts =>
      if isDigits first && parts.all isSixtieth then some (.ok (sexagesimal (first :: parts))) else none

/-- Reads an exponent, which needs a sign; nothing counts as zero. -/
def exponent? : Text → Option Int
  | [] => some 0
  | e :: sign :: digits =>
    if (e = 'e' || e = 'E') && (sign = '-' || sign = '+') && !digits.isEmpty &&
        digits.all Text.isAsciiDigit then
      let n : Int := Decimal.digitValue digits
      some (if sign = '-' then -n else n)
    else none
  | _ => none

def sexagesimalFloat (parts : List Text) (last places : Text) : Float :=
  ((parts ++ [last]).reverse.foldl (fun ((sum, base, places) : Float × Nat × Text) part =>
    (sum + Decimal.ofParts false part places 0 * Float.ofNat base, base * 60, [])) (0, 1, places)).1

def pointed? (t : Text) : Option Float :=
  let (negative, u) := unsign t
  match Text.cut? "." u with
  | none => none
  | some (front, behind) =>
    let places := behind.takeWhile fun c => Text.isAsciiDigit c || c = '_'
    let rest := behind.drop places.length
    let places := places.filter (· ≠ '_')
    if front.isEmpty then
      if behind = "inf" || behind = "Inf" || behind = "INF" then some (Binary.infinity negative)
      else if u.length ≠ t.length then none
      else if behind = "nan" || behind = "NaN" || behind = "NAN" then some Binary.nanFloat
      else if isDigits (behind.take 1) then
        (exponent? rest).map (Decimal.ofParts negative [] places)
      else none
    else
      match front.splitOn ':' with
      | [] => none
      | [whole] =>
        if isDigits whole then (exponent? rest).map (Decimal.ofParts negative whole places) else none
      | first :: parts =>
        if isDigits first && parts.all isSixtieth && rest.isEmpty then
          let x := sexagesimalFloat (first :: parts.dropLast) ((parts.getLast?).getD []) places
          some (if negative then -x else x)
        else none

/-- What a plain scalar means. Numbers may hold underscores, and parts between colons count by sixty.
Dates are read as texts. -/
def resolve (t : Text) : Except Flaw Value :=
  if trueWords.contains t then .ok (.bool true)
  else if falseWords.contains t then .ok (.bool false)
  else if nullWords.contains t then .ok .null
  else if reservedWords.contains t then .error .malformed
  else
    match pointed? t with
    | some x => .ok (.float x)
    | none =>
      let (negative, u) := unsign t
      match whole? u with
      | some n => n.map fun n => .int (if negative then -(n : Int) else n)
      | none => .ok (.text t)

end Stencil.Yaml

import Stencil.Text.Blank

namespace Stencil.Text

def ofNat (n : Nat) : Text :=
  Nat.toDigits 10 n

def ofInt : Int → Text
  | .ofNat n => ofNat n
  | .negSucc n => '-' :: ofNat (n + 1)

def octal (n : Nat) : Text :=
  Nat.toDigits 8 n

/-- Hexadecimal digits in lower case, filled up with zeros to a width. -/
def hex (width n : Nat) : Text :=
  let digits := Nat.toDigits 16 n
  List.replicate (width - digits.length) '0' ++ digits

/-- The code points of the zeros of the decimal digit sets of Unicode 14; the nine other digits of
a set follow its zero. -/
def decimalZeros : List Nat :=
  [
    0x30, 0x660, 0x6F0, 0x7C0, 0x966, 0x9E6, 0xA66, 0xAE6, 0xB66, 0xBE6, 0xC66, 0xCE6, 0xD66,
    0xDE6, 0xE50, 0xED0, 0xF20, 0x1040, 0x1090, 0x17E0, 0x1810, 0x1946, 0x19D0, 0x1A80, 0x1A90,
    0x1B50, 0x1BB0, 0x1C40, 0x1C50, 0xA620, 0xA8D0, 0xA900, 0xA9D0, 0xA9F0, 0xAA50, 0xABF0,
    0xFF10, 0x104A0, 0x10D30, 0x11066, 0x110F0, 0x11136, 0x111D0, 0x112F0, 0x11450, 0x114D0,
    0x11650, 0x116C0, 0x11730, 0x118E0, 0x11950, 0x11C50, 0x11D50, 0x11DA0, 0x16A60, 0x16AC0,
    0x16B50, 0x1D7CE, 0x1D7D8, 0x1D7E2, 0x1D7EC, 0x1D7F6, 0x1E140, 0x1E2F0, 0x1E950, 0x1FBF0]

def decimalDigit? (c : Char) : Option Nat :=
  (decimalZeros.find? fun z => z ≤ c.toNat && c.toNat < z + 10).map (c.toNat - ·)

/-- The value of a digit, where letters continue behind 9. -/
def digit? (c : Char) : Option Nat :=
  if 'a' ≤ c && c ≤ 'z' then some (c.toNat - 'a'.toNat + 10)
  else if 'A' ≤ c && c ≤ 'Z' then some (c.toNat - 'A'.toNat + 10)
  else decimalDigit? c

/-- Continues a number in a base; the flag tells that a digit has to follow. -/
def digitsFrom? (base : Nat) : Bool → Nat → Text → Option Nat
  | true, _, [] => none
  | false, n, [] => some n
  | afterMark, n, c :: t =>
    if c = '_' then if afterMark then none else digitsFrom? base true n t
    else
      match digit? c with
      | some d => if d < base then digitsFrom? base false (n * base + d) t else none
      | none => none

/-- Reads at least one digit of a base; underscores may stand singly between digits. -/
def digits? (base : Nat) (t : Text) : Option Nat :=
  digitsFrom? base true 0 t

def octalMark? : Text → Option Text
  | '0' :: 'o' :: t => some t
  | '0' :: 'O' :: t => some t
  | _ => none

/-- Reads an unsigned octal number, which may begin with `0o`. -/
def octalDigits? (t : Text) : Option Nat :=
  match octalMark? t with
  | some ('_' :: t) => digits? 8 t
  | some t => digits? 8 t
  | none => digits? 8 t

/-- Reads an octal number with white space around it and an optional sign. -/
def octal? (t : Text) : Option Int :=
  match strip t with
  | '-' :: t => (octalDigits? t).map fun n => -(n : Int)
  | '+' :: t => (octalDigits? t).map Int.ofNat
  | t => (octalDigits? t).map Int.ofNat

end Stencil.Text

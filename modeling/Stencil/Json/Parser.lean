import Stencil.Decimal.Reading
import Stencil.Value.Basic

namespace Stencil.Json

def isSpace (c : Char) : Bool :=
  c = ' ' || c = '\t' || c = '\n' || c = '\r'

def skipSpace (t : Text) : Text :=
  t.dropWhile isSpace

def hexDigit? (c : Char) : Option Nat :=
  if '0' ≤ c && c ≤ '9' then some (c.toNat - '0'.toNat)
  else if 'a' ≤ c && c ≤ 'f' then some (c.toNat - 'a'.toNat + 10)
  else if 'A' ≤ c && c ≤ 'F' then some (c.toNat - 'A'.toNat + 10)
  else none

def hexValue? (a b c d : Char) : Option Nat := do
  return (((← hexDigit? a) * 16 + (← hexDigit? b)) * 16 + (← hexDigit? c)) * 16 + (← hexDigit? d)

def isHighSurrogate (n : Nat) : Bool :=
  0xD800 ≤ n && n < 0xDC00

def isLowSurrogate (n : Nat) : Bool :=
  0xDC00 ≤ n && n < 0xE000

def ofSurrogates (high low : Nat) : Char :=
  Char.ofNat (0x10000 + (high - 0xD800) * 0x400 + (low - 0xDC00))

/-- The character of a unit that stands alone; half a pair has none and is replaced. -/
def ofUnit (n : Nat) : Char :=
  if isHighSurrogate n || isLowSurrogate n then '\uFFFD' else Char.ofNat n

def simpleEscape? (c : Char) : Option Char :=
  if c = '"' || c = '\\' || c = '/' then some c
  else if c = 'n' then some '\n'
  else if c = 'r' then some '\r'
  else if c = 't' then some '\t'
  else if c = 'b' then some '\x08'
  else if c = 'f' then some '\x0c'
  else none

def lowSurrogate? : Text → Option Nat
  | '\\' :: 'u' :: a :: b :: c :: d :: _ =>
    match hexValue? a b c d with
    | some n => if isLowSurrogate n then some n else none
    | none => none
  | _ => none

/-- Reads the inside of a string literal up to its closing quote. `skip` counts the characters of an
escape that are still to be passed over. -/
def stringFrom? : Nat → Text → Option (Text × Text)
  | _, [] => none
  | skip + 1, _ :: t => stringFrom? skip t
  | 0, '"' :: t => some ([], t)
  | 0, '\\' :: t =>
    match t with
    | 'u' :: a :: b :: c :: d :: rest =>
      match hexValue? a b c d with
      | none => none
      | some n =>
        match if isHighSurrogate n then lowSurrogate? rest else none with
        | some low => (stringFrom? 11 t).map fun (s, rest) => (ofSurrogates n low :: s, rest)
        | none => (stringFrom? 5 t).map fun (s, rest) => (ofUnit n :: s, rest)
    | c :: _ =>
      match simpleEscape? c with
      | some c => (stringFrom? 1 t).map fun (s, rest) => (c :: s, rest)
      | none => none
    | [] => none
  | 0, c :: t => if c.toNat < 0x20 then none else (stringFrom? 0 t).map fun (s, rest) => (c :: s, rest)

def string? (t : Text) : Option (Text × Text) :=
  stringFrom? 0 t

def digits (t : Text) : Text × Text :=
  t.span Text.isAsciiDigit

def places (t : Text) : Text × Text :=
  match t with
  | '.' :: rest => if (digits rest).1.isEmpty then ([], t) else digits rest
  | _ => ([], t)

def exponent? (t : Text) : Option (Int × Text) :=
  match t with
  | c :: rest =>
    if c = 'e' || c = 'E' then
      let (negative, rest) :=
        match rest with
        | '-' :: rest => (true, rest)
        | '+' :: rest => (false, rest)
        | _ => (false, rest)
      let (ds, rest) := digits rest
      if ds.isEmpty then none
      else
        let n : Int := Decimal.digitValue ds
        some (if negative then -n else n, rest)
    else none
  | [] => none

/-- The whole digits of a number, without needless zeros in front. -/
def wholeDigits? (t : Text) : Option (Text × Text) :=
  match t with
  | '0' :: rest => some (['0'], rest)
  | _ => if (digits t).1.isEmpty then none else some (digits t)

def unsigned? (negative : Bool) (t : Text) : Option (Value × Text) := do
  let (whole, rest) ← wholeDigits? t
  let (behind, rest) := places rest
  match exponent? rest with
  | some (e, rest) => return (.float (Decimal.ofParts negative whole behind e), rest)
  | none =>
    if behind.isEmpty then
      let n : Int := Decimal.digitValue whole
      return (.int (if negative then -n else n), rest)
    else return (.float (Decimal.ofParts negative whole behind 0), rest)

def scalar? (t : Text) : Option (Value × Text) :=
  match Text.after? "null" t, Text.after? "true" t, Text.after? "false" t, Text.after? "NaN" t,
    Text.after? "Infinity" t, Text.after? "-Infinity" t with
  | some rest, _, _, _, _, _ => some (.null, rest)
  | _, some rest, _, _, _, _ => some (.bool true, rest)
  | _, _, some rest, _, _, _ => some (.bool false, rest)
  | _, _, _, some rest, _, _ => some (.float Binary.nanFloat, rest)
  | _, _, _, _, some rest, _ => some (.float (Binary.infinity false), rest)
  | _, _, _, _, _, some rest => some (.float (Binary.infinity true), rest)
  | _, _, _, _, _, _ =>
    match t with
    | '-' :: rest => unsigned? true rest
    | _ => unsigned? false t

mutual

/-- Reads a value; the number bounds the length of what is read. -/
def value? : Nat → Text → Option (Value × Text)
  | 0, _ => none
  | n + 1, t =>
    match t with
    | '"' :: rest => (string? rest).map fun (s, rest) => (.text s, rest)
    | '[' :: rest =>
      match skipSpace rest with
      | ']' :: rest => some (.list [], rest)
      | rest => (items? n rest).map fun (vs, rest) => (.list vs, rest)
    | '{' :: rest =>
      match skipSpace rest with
      | '}' :: rest => some (.dict [], rest)
      | rest => (members? n rest).map fun (es, rest) => (.dict (Entries.ofList es), rest)
    | _ => scalar? t

def items? : Nat → Text → Option (List Value × Text)
  | 0, _ => none
  | n + 1, t =>
    match value? n t with
    | none => none
    | some (v, rest) =>
      match skipSpace rest with
      | ']' :: rest => some ([v], rest)
      | ',' :: rest => (items? n (skipSpace rest)).map fun (vs, rest) => (v :: vs, rest)
      | _ => none

def members? : Nat → Text → Option (List (Key × Value) × Text)
  | 0, _ => none
  | n + 1, t =>
    match t with
    | '"' :: rest =>
      match string? rest with
      | none => none
      | some (k, rest) =>
        match skipSpace rest with
        | ':' :: rest =>
          match value? n (skipSpace rest) with
          | none => none
          | some (v, rest) =>
            match skipSpace rest with
            | '}' :: rest => some ([(.text k, v)], rest)
            | ',' :: rest =>
              (members? n (skipSpace rest)).map fun (es, rest) => ((.text k, v) :: es, rest)
            | _ => none
        | _ => none
    | _ => none

end

/-- Reads a whole text. The last of several entries with one key wins, and the names of not numbers and
infinities are accepted. -/
def parse? (t : Text) : Option Value :=
  match value? (2 * t.length + 1) (skipSpace t) with
  | some (v, rest) => if (skipSpace rest).isEmpty then some v else none
  | none => none

end Stencil.Json

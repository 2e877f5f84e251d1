import Stencil.Decimal.Notation
import Stencil.Fault
import Stencil.Value.Basic

namespace Stencil.Json

def escapeChar (c : Char) : Text :=
  if c = '"' then "\\\""
  else if c = '\\' then "\\\\"
  else if c = '\n' then "\\n"
  else if c = '\r' then "\\r"
  else if c = '\t' then "\\t"
  else if c = '\x08' then "\\b"
  else if c = '\x0c' then "\\f"
  else if c.toNat < 0x20 then "\\u" ++ Text.hex 4 c.toNat
  else [c]

def literal (t : Text) : Text :=
  '"' :: t.flatMap escapeChar ++ ['"']

def number (x : Float) : Text :=
  match Binary.ofFloat x with
  | .nan => "NaN"
  | .infinite negative => if negative then "-Infinity" else "Infinity"
  | .finite .. => Text.ofFloat x

def truth (b : Bool) : Text :=
  if b then "true" else "false"

/-- The text that a key is written as: a text as it is, and any other key as the text of its JSON form.
-/
def keyText : Key → Text
  | .null => "null"
  | .bool b => truth b
  | .int n => Text.ofInt n
  | .float x => number x
  | .text t => t

/-- Where white space goes: none at all, or each item on a line of its own with an indentation for
every level. -/
inductive Layout
  | compact
  | indented (width : Nat)
  deriving DecidableEq, Repr

namespace Layout

def lineBreak : Layout → Nat → Text
  | compact, _ => []
  | indented width, depth => '\n' :: List.replicate (width * depth) ' '

def colon : Layout → Text
  | compact => ":"
  | indented _ => ": "

def block (l : Layout) (depth : Nat) (opening closing : Char) (items : List Text) : Text :=
  if items.isEmpty then [opening, closing]
  else
    opening :: l.lineBreak (depth + 1) ++ Text.join (',' :: l.lineBreak (depth + 1)) items ++
      l.lineBreak depth ++ [closing]

end Layout

mutual

/-- Writes a value at a depth. What has no JSON form is refused, also a reference to something that the
value is inside of. -/
def write (l : Layout) (depth : Nat) : Value → Except Fault Text
  | .null => .ok "null"
  | .bool b => .ok (truth b)
  | .int n => .ok (Text.ofInt n)
  | .float x => .ok (number x)
  | .text t => .ok (literal t)
  | .markup t => .ok (literal t)
  | .list vs => (writeItems l (depth + 1) vs).map (l.block depth '[' ']')
  | .tuple vs => (writeItems l (depth + 1) vs).map (l.block depth '[' ']')
  | .dict es => (writeEntries l (depth + 1) es).map (l.block depth '{' '}')
  | .ref _ => .error (.general .badValue)
  | _ => .error (.general .wrongType)

def writeItems (l : Layout) (depth : Nat) : List Value → Except Fault (List Text)
  | [] => .ok []
  | v :: vs => do
    let t ← write l depth v
    return t :: (← writeItems l depth vs)

def writeEntries (l : Layout) (depth : Nat) : List (Key × Value) → Except Fault (List Text)
  | [] => .ok []
  | (k, v) :: es => do
    let t ← write l depth v
    return (literal (keyText k) ++ l.colon ++ t) :: (← writeEntries l depth es)

end

def compact (v : Value) : Except Fault Text :=
  write .compact 0 v

def pretty (v : Value) : Except Fault Text :=
  write (.indented 4) 0 v

end Stencil.Json

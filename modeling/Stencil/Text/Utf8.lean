import Stencil.Text.Basic

namespace Stencil.Text

abbrev Bytes := List UInt8

def encode (t : Text) : Bytes :=
  t.flatMap String.utf8EncodeChar

/-- What the bytes read so far leave to be read: nothing, or the rest of a sequence, whose next byte
has to lie between `low` and `high` and is followed by `more` further ones. -/
inductive Utf8State
  | ready
  | within (low high : UInt8) (more value : Nat)

/-- Reads the first byte of a sequence. The bounds on the second byte exclude long forms,
surrogates and code points that are too large. -/
def Utf8State.lead (b : UInt8) : List (Option Char) × Utf8State :=
  if b < 0x80 then ([some (Char.ofNat b.toNat)], .ready)
  else if 0xC2 ≤ b && b ≤ 0xDF then ([], .within 0x80 0xBF 0 (b.toNat - 0xC0))
  else if b = 0xE0 then ([], .within 0xA0 0xBF 1 0)
  else if b = 0xED then ([], .within 0x80 0x9F 1 0xD)
  else if 0xE1 ≤ b && b ≤ 0xEF then ([], .within 0x80 0xBF 1 (b.toNat - 0xE0))
  else if b = 0xF0 then ([], .within 0x90 0xBF 2 0)
  else if b = 0xF4 then ([], .within 0x80 0x8F 2 4)
  else if 0xF1 ≤ b && b ≤ 0xF3 then ([], .within 0x80 0xBF 2 (b.toNat - 0xF0))
  else ([none], .ready)

def Utf8State.next : Utf8State → UInt8 → List (Option Char) × Utf8State
  | .ready, b => lead b
  | .within low high more value, b =>
    if low ≤ b && b ≤ high then
      let value := value * 64 + (b.toNat - 0x80)
      match more with
      | 0 => ([some (Char.ofNat value)], .ready)
      | more + 1 => ([], .within 0x80 0xBF more value)
    else (none :: (lead b).1, (lead b).2)

def Utf8State.scan : Utf8State → Bytes → List (Option Char)
  | .ready, [] => []
  | .within .., [] => [none]
  | s, b :: bytes => (s.next b).1 ++ scan (s.next b).2 bytes

def decode? (bytes : Bytes) : Option Text :=
  (Utf8State.ready.scan bytes).mapM id

/-- Reads UTF-8 bytes with one replacement character for each malformed sequence, which is the longest
beginning of a well-formed one that the bytes break off. -/
def decodeLossy (bytes : Bytes) : Text :=
  (Utf8State.ready.scan bytes).map (·.getD '\uFFFD')

/-- Writes every line end, a carriage return with or without a line feed, as a line feed. -/
def normalizeNewlines : Text → Text
  | [] => []
  | '\r' :: '\n' :: t => '\n' :: normalizeNewlines t
  | c :: t => (if c = '\r' then '\n' else c) :: normalizeNewlines t

end Stencil.Text

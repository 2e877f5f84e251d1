import Stencil.Text.Basic

namespace Stencil.Yaml

structure Cursor where
  rest : Text
  index : Nat := 0
  line : Nat := 0
  column : Nat := 0

def isBreak (c : Char) : Bool :=
  c = '\n' || c = '\r' || c = '\x85' || c = '\u2028' || c = '\u2029'

def isSpace (c : Char) : Bool :=
  c = ' ' || c = '\t'

def isGap : Option Char → Bool
  | none => true
  | some c => isSpace c || isBreak c

namespace Cursor

def peek (c : Cursor) : Option Char :=
  c.rest.head?

def ahead (c : Cursor) (n : Nat) : Option Char :=
  c.rest[n]?

/-- Passes one character. A carriage return in front of a line feed does not end the line, and a byte
order mark takes no column. -/
def next (c : Cursor) : Cursor :=
  match c.rest with
  | [] => c
  | ch :: rest =>
    if isBreak ch && !(ch = '\r' && rest.head? = some '\n') then ⟨rest, c.index + 1, c.line + 1, 0⟩
    else ⟨rest, c.index + 1, c.line, if ch = '\uFEFF' then c.column else c.column + 1⟩

def skip : Nat → Cursor → Cursor
  | 0, c => c
  | n + 1, c => skip n c.next

def skipWhile (p : Char → Bool) (c : Cursor) : Cursor :=
  c.skip (c.rest.takeWhile p).length

/-- Passes a line break and answers what it counts as. Only the separators of lines and paragraphs
count as themselves. -/
def lineBreak? (c : Cursor) : Option (Text × Cursor) :=
  match c.rest with
  | '\r' :: '\n' :: _ => some (['\n'], c.skip 2)
  | ch :: _ =>
    if ch = '\u2028' || ch = '\u2029' then some ([ch], c.next)
    else if isBreak ch then some (['\n'], c.next)
    else none
  | [] => none

/-- Three equal signs of a kind stand at the front, with a gap behind them. -/
def isMarked (mark : Text) (c : Cursor) : Bool :=
  Text.startsWith mark c.rest && isGap (c.ahead 3)

def atSeparator (c : Cursor) : Bool :=
  c.isMarked "---" || c.isMarked "..."

end Cursor

end Stencil.Yaml

import Stencil.Yaml.Scalar

namespace Stencil.Yaml

inductive Token
  | documentStart
  | documentEnd
  | listStart
  | mappingStart
  | blockEnd
  | openList
  | closeList
  | openMapping
  | closeMapping
  | item
  | comma
  | key
  | value
  | scalar (text : Text) (plain : Bool)
  deriving DecidableEq

structure KeyStart where
  /-- How many tokens stand in front of it. -/
  tokens : Nat
  /-- Nothing else than a key can stand there. -/
  required : Bool
  index : Nat
  line : Nat
  column : Nat

structure Scanner where
  cursor : Cursor
  tokens : Array Token := #[]
  /-- The places where a key may have begun, one for each pair of open brackets and one for none;
  innermost first. -/
  starts : List (Option KeyStart) := [none]
  /-- The columns of the open blocks, innermost first. -/
  blocks : List Int := []
  /-- A key can begin at the next token. -/
  keyAllowed : Bool := true

namespace Scanner

def maxKeyLength : Nat := 1024

def inFlow (s : Scanner) : Bool :=
  1 < s.starts.length

def indent (s : Scanner) : Int :=
  (s.blocks.head?).getD (-1)

def column (s : Scanner) : Int :=
  s.cursor.column

def emit (t : Token) (s : Scanner) : Scanner :=
  { s with tokens := s.tokens.push t }

/-- Puts tokens in front of the last ones. -/
def insert (place : Nat) (ts : List Token) (s : Scanner) : Scanner :=
  { s with tokens := s.tokens.extract 0 place ++ ts.toArray ++ s.tokens.extract place s.tokens.size }

/-- Passes white space, comments and line breaks. Outside of brackets a key can begin on a new line. -/
def skipBlank : Nat → Scanner → Scanner
  | 0, s => s
  | n + 1, s =>
    let c := s.cursor.skipWhile (· = ' ')
    let c := if c.peek = some '#' then c.skipWhile (!isBreak ·) else c
    match c.lineBreak? with
    | some (_, c) => skipBlank n { s with cursor := c, keyAllowed := s.keyAllowed || !s.inFlow }
    | none => { s with cursor := c }

/-- A key has to end on its line and must not be too long. -/
def isStale (s : Scanner) (k : KeyStart) : Bool :=
  k.line ≠ s.cursor.line || k.index + maxKeyLength < s.cursor.index

def dropStale (s : Scanner) : Option Scanner :=
  if s.starts.any fun k => (k.map fun k => k.required && s.isStale k).getD false then none
  else some { s with starts := s.starts.map fun k => k.bind fun k => if s.isStale k then none else some k }

/-- Closes the blocks that are indented more than a column. -/
def closeBlocks (column : Int) (s : Scanner) : Scanner :=
  if s.inFlow then s
  else
    { s with
      tokens := s.tokens ++ (s.blocks.takeWhile (column < ·)).toArray.map fun _ => Token.blockEnd
      blocks := s.blocks.dropWhile (column < ·) }

def dropStart (s : Scanner) : Option Scanner :=
  match s.starts with
  | some k :: rest => if k.required then none else some { s with starts := none :: rest }
  | _ => some s

def noteStart (s : Scanner) : Option Scanner :=
  if !s.keyAllowed then some s
  else do
    let required := !s.inFlow && s.indent = s.column
    let s ← s.dropStart
    let c := s.cursor
    return { s with starts := some ⟨s.tokens.size, required, c.index, c.line, c.column⟩ :: s.starts.tail }

def openBlock (t : Token) (s : Scanner) : Scanner :=
  if s.indent < s.column then { s.emit t with blocks := s.column :: s.blocks } else s

def take (n : Nat) (t : Token) (s : Scanner) : Scanner :=
  { s.emit t with cursor := s.cursor.skip n }

def allow (b : Bool) (s : Scanner) : Scanner :=
  { s with keyAllowed := b }

def separator (t : Token) (s : Scanner) : Option Scanner := do
  return (← (s.closeBlocks (-1)).dropStart).allow false |>.take 3 t

def openFlow (t : Token) (s : Scanner) : Option Scanner := do
  let s ← s.noteStart
  return { s with starts := none :: s.starts, keyAllowed := true }.take 1 t

def closeFlow (t : Token) (s : Scanner) : Option Scanner := do
  if !s.inFlow then none
  let s ← s.dropStart
  return { s with starts := s.starts.tail, keyAllowed := false }.take 1 t

def scanComma (s : Scanner) : Option Scanner := do
  return (← (s.allow true).dropStart).take 1 .comma

def scanItem (s : Scanner) : Option Scanner := do
  if !s.inFlow && !s.keyAllowed then none
  let s := if s.inFlow then s else s.openBlock .listStart
  return (← (s.allow true).dropStart).take 1 .item

def scanKey (s : Scanner) : Option Scanner := do
  if !s.inFlow && !s.keyAllowed then none
  let s := if s.inFlow then s else s.openBlock .mappingStart
  return (← (s.allow (!s.inFlow)).dropStart).take 1 .key

/-- A colon. What stands in front of it becomes a key, which may open a mapping. -/
def scanValue (s : Scanner) : Option Scanner :=
  match s.starts with
  | some k :: rest =>
    let s := { s with starts := none :: rest }
    let opens := !s.inFlow && s.indent < (k.column : Int)
    let s := s.insert k.tokens (if opens then [.mappingStart, .key] else [.key])
    let s := if opens then { s with blocks := k.column :: s.blocks } else s
    some ((s.allow false).take 1 .value)
  | _ => do
    if !s.inFlow && !s.keyAllowed then none
    let s := if s.inFlow then s else s.openBlock .mappingStart
    return (← (s.allow (!s.inFlow)).dropStart).take 1 .value

def scanBlock (fold : Bool) (s : Scanner) : Option Scanner := do
  let s ← (s.allow true).dropStart
  let (t, c) ← block? fold s.indent s.cursor.next
  return { s.emit (.scalar t false) with cursor := c }

def scanQuoted (double : Bool) (s : Scanner) : Option Scanner := do
  let s ← s.noteStart
  let (t, c) ← quotedFrom double (s.cursor.rest.length + 1) s.cursor.next
  return { s.emit (.scalar t false) with cursor := c, keyAllowed := false }

def scanPlain (s : Scanner) : Option Scanner := do
  let s ← s.noteStart
  let p := plainFrom s.inFlow (s.indent + 1) (s.cursor.rest.length + 1) s.cursor
  return { s.emit (.scalar p.text true) with cursor := p.cursor, keyAllowed := p.brokeLine }

def startsPlain (s : Scanner) : Bool :=
  match s.cursor.peek with
  | none => false
  | some c =>
    !(isGap (some c) || "-?:,[]{}#&*!|>'\"%@`".toList.contains c) ||
      (!isGap (s.cursor.ahead 1) && (c = '-' || (!s.inFlow && (c = '?' || c = ':'))))

def scanToken (c : Char) (s : Scanner) : Option Scanner :=
  let gapBehind := isGap (s.cursor.ahead 1)
  if s.cursor.column = 0 && s.cursor.isMarked "---" then s.separator .documentStart
  else if s.cursor.column = 0 && s.cursor.isMarked "..." then s.separator .documentEnd
  else if c = '[' then s.openFlow .openList
  else if c = '{' then s.openFlow .openMapping
  else if c = ']' then s.closeFlow .closeList
  else if c = '}' then s.closeFlow .closeMapping
  else if c = ',' then s.scanComma
  else if c = '-' && gapBehind then s.scanItem
  else if c = '?' && (s.inFlow || gapBehind) then s.scanKey
  else if c = ':' && (s.inFlow || gapBehind) then s.scanValue
  else if c = '|' && !s.inFlow then s.scanBlock false
  else if c = '>' && !s.inFlow then s.scanBlock true
  else if c = '\'' then s.scanQuoted false
  else if c = '"' then s.scanQuoted true
  else if s.startsPlain then s.scanPlain
  else none

def scanAll : Nat → Scanner → Option (Array Token)
  | 0, _ => none
  | n + 1, s => do
    let s ← (s.skipBlank (s.cursor.rest.length + 1)).dropStale
    let s := s.closeBlocks s.column
    match s.cursor.peek with
    | none => return (← (s.closeBlocks (-1)).dropStart).tokens
    | some c => scanAll n (← s.scanToken c)

end Scanner

def isPrintable (c : Char) : Bool :=
  c = '\t' || c = '\n' || c = '\r' || c = '\x85' || (' ' ≤ c && c ≤ '~') ||
    (0xA0 ≤ c.toNat && c ≠ '\uFFFE' && c ≠ '\uFFFF')

def tokens? (t : Text) : Option (List Token) :=
  if !t.all isPrintable then none
  else
    let c : Cursor := ⟨t, 0, 0, 0⟩
    let c := if c.peek = some '\uFEFF' then c.next else c
    (Scanner.scanAll (t.length + 1) { cursor := c }).map Array.toList

end Stencil.Yaml

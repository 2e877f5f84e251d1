import Stencil.Text.Numeral
import Stencil.Text.Word
import Stencil.Yaml.Cursor

namespace Stencil.Yaml

structure PlainText where
  text : Text
  /-- Its end stands behind a line break. -/
  brokeLine : Bool
  cursor : Cursor

def plainLength (inFlow : Bool) : Text → Nat
  | [] => 0
  | c :: rest =>
    let endsKey := c = ':' && (isGap rest.head? ||
      (inFlow && ((rest.head?.map fun d => ",[]{}".toList.contains d).getD false)))
    if isGap (some c) || endsKey || (inFlow && ",?[]{}".toList.contains c) then 0
    else plainLength inFlow rest + 1

/-- Passes spaces and line breaks and answers the line breaks, but nothing if a document begins or
ends behind one of them. -/
def foldBreaks : Nat → Cursor → Option Text × Cursor
  | 0, c => (some [], c)
  | n + 1, c =>
    if c.peek = some ' ' then foldBreaks n c.next
    else
      match c.lineBreak? with
      | none => (some [], c)
      | some (b, c) =>
        if c.atSeparator then (none, c)
        else
          let (more, c) := foldBreaks n c
          (more.map (b ++ ·), c)

/-- What a line break with further ones behind it counts as: a single one as a space, and further ones
as themselves. -/
def folded (first more : Text) : Text :=
  if first ≠ ['\n'] then first ++ more else if more.isEmpty then [' '] else more

/-- Passes the gap behind a part of a plain scalar and answers what it counts as; nothing ends the
scalar. -/
def plainGap (c : Cursor) : PlainText :=
  let spaces := c.rest.takeWhile (· = ' ')
  let c := c.skip spaces.length
  match c.lineBreak? with
  | none => ⟨spaces, false, c⟩
  | some (b, c) =>
    if c.atSeparator then ⟨[], true, c⟩
    else
      match foldBreaks (c.rest.length + 1) c with
      | (none, c) => ⟨[], true, c⟩
      | (some more, c) => ⟨folded b more, true, c⟩

/-- Reads a plain scalar, part by part. Outside of brackets its further lines have to be indented. -/
def plainFrom (inFlow : Bool) (indent : Int) : Nat → Cursor → PlainText
  | 0, c => ⟨[], false, c⟩
  | n + 1, c =>
    let length := plainLength inFlow c.rest
    if c.peek = some '#' || length = 0 then ⟨[], false, c⟩
    else
      let gap := plainGap (c.skip length)
      if gap.text.isEmpty || gap.cursor.peek = some '#' ||
          (!inFlow && (gap.cursor.column : Int) < indent) then
        ⟨c.rest.take length, gap.brokeLine, gap.cursor⟩
      else
        let more := plainFrom inFlow indent n gap.cursor
        if more.text.isEmpty then ⟨c.rest.take length, gap.brokeLine, more.cursor⟩
        else ⟨c.rest.take length ++ gap.text ++ more.text, more.brokeLine, more.cursor⟩

def quotedBreaks : Nat → Cursor → Option (Text × Cursor)
  | 0, _ => none
  | n + 1, c =>
    if c.atSeparator then none
    else
      let c := c.skipWhile isSpace
      match c.lineBreak? with
      | none => some ([], c)
      | some (b, c) => (quotedBreaks n c).map fun (more, c) => (b ++ more, c)

def quotedGap (c : Cursor) : Option (Text × Cursor) :=
  let spaces := c.rest.takeWhile isSpace
  let c := c.skip spaces.length
  match c.lineBreak? with
  | none => if c.rest.isEmpty then none else some (spaces, c)
  | some (b, c) =>
    (quotedBreaks (c.rest.length + 1) c).map fun (more, c) => (folded b more, c)

def escapes : List (Char × Char) :=
  [('0', '\x00'), ('a', '\x07'), ('b', '\x08'), ('t', '\t'), ('\t', '\t'), ('n', '\n'), ('v', '\x0b'),
    ('f', '\x0c'), ('r', '\r'), ('e', '\x1b'), (' ', ' '), ('"', '"'), ('\\', '\\'), ('/', '/'),
    ('N', '\x85'), ('_', '\xa0'), ('L', '\u2028'), ('P', '\u2029')]

def escapeLengths : List (Char × Nat) :=
  [('x', 2), ('u', 4), ('U', 8)]

def hexValue? (t : Text) : Option Nat :=
  if t.all fun c => Text.isAsciiDigit c || ('a' ≤ c && c ≤ 'f') || ('A' ≤ c && c ≤ 'F') then
    Text.digits? 16 t
  else none

/-- Reads what follows a backslash in a scalar between double quotes. -/
def escape? (c : Cursor) : Option (Text × Cursor) := do
  let ch ← c.peek
  match escapes.lookup ch, escapeLengths.lookup ch with
  | some meant, _ => return ([meant], c.next)
  | none, some n =>
    let digits := c.next.rest.take n
    if digits.length ≠ n then none
    let code ← hexValue? digits
    if 0x110000 ≤ code then none
    return ([if code.isValidChar then Char.ofNat code else '\uFFFD'], c.next.skip n)
  | none, none =>
    let (_, c) ← c.lineBreak?
    quotedBreaks (c.rest.length + 1) c

def quotedFrom (double : Bool) : Nat → Cursor → Option (Text × Cursor)
  | 0, _ => none
  | n + 1, c => do
    let ch ← c.peek
    let quote := if double then '"' else '\''
    let (part, c) ←
      if ch = quote then
        if !double && c.ahead 1 = some quote then some ([quote], c.skip 2) else return ([], c.next)
      else if double && ch = '\\' then escape? c.next
      else if isGap (some ch) then quotedGap c
      else some ([ch], c.next)
    let (more, c) ← quotedFrom double n c
    return (part ++ more, c)

/-- The marks in the head of a block: what becomes of the line breaks at its end, and its indentation. -/
structure BlockHead where
  keepEnd : Option Bool := none
  indent : Option Nat := none

def keepMark? (c : Cursor) : Option (Bool × Cursor) :=
  match c.peek with
  | some '+' => some (true, c.next)
  | some '-' => some (false, c.next)
  | _ => none

def indentMark? (c : Cursor) : Option (Nat × Cursor) :=
  match c.peek with
  | some ch => if Text.isAsciiDigit ch then some (ch.toNat - '0'.toNat, c.next) else none
  | none => none

def blockMarks (c : Cursor) : BlockHead × Cursor :=
  match keepMark? c, indentMark? c with
  | some (keep, c), _ =>
    match indentMark? c with
    | some (n, c) => (⟨some keep, some n⟩, c)
    | none => (⟨some keep, none⟩, c)
  | none, some (n, c) =>
    match keepMark? c with
    | some (keep, c) => (⟨some keep, some n⟩, c)
    | none => (⟨none, some n⟩, c)
  | none, none => ({}, c)

def blockHead? (c : Cursor) : Option (BlockHead × Cursor) := do
  let (head, c) := blockMarks c
  if head.indent = some 0 then none
  if !(c.rest.isEmpty || c.peek = some ' ' || c.lineBreak?.isSome) then none
  let c := c.skipWhile (· = ' ')
  let c := if c.peek = some '#' then c.skipWhile (!isBreak ·) else c
  if c.rest.isEmpty then return (head, c)
  let (_, c) ← c.lineBreak?
  return (head, c)

/-- Passes spaces and line breaks in front of a block whose indentation is not given, and answers the
line breaks and the greatest indentation. -/
def findIndent : Nat → Cursor → Text × Nat × Cursor
  | 0, c => ([], 0, c)
  | n + 1, c =>
    if c.peek = some ' ' then
      let (breaks, greatest, d) := findIndent n c.next
      (breaks, max greatest c.next.column, d)
    else
      match c.lineBreak? with
      | none => ([], 0, c)
      | some (b, c) =>
        let (breaks, greatest, c) := findIndent n c
        (b ++ breaks, greatest, c)

def skipIndent (indent : Nat) : Nat → Cursor → Cursor
  | 0, c => c
  | n + 1, c =>
    if c.column < indent && c.peek = some ' ' then skipIndent indent n c.next else c

def blockBreaks (indent : Nat) : Nat → Cursor → Text × Cursor
  | 0, c => ([], c)
  | n + 1, c =>
    let c := skipIndent indent indent c
    match c.lineBreak? with
    | none => ([], c)
    | some (b, c) =>
      let (more, c) := blockBreaks indent n c
      (b ++ more, c)

/-- Reads the lines of a block, with the line breaks in front of them and the last line's own and
further ones. -/
def blockLines (fold : Bool) (indent : Nat) : Nat → Text → Text → Cursor → Text × Text × Text × Cursor
  | 0, breaks, last, c => ([], last, breaks, c)
  | n + 1, breaks, last, c =>
    if c.column = indent && !c.rest.isEmpty then
      let line := c.rest.takeWhile (!isBreak ·)
      let startsWithSpace := (c.peek.map isSpace).getD false
      let c := c.skip line.length
      let (last, c) := (c.lineBreak?).getD ([], c)
      let (after, c) := blockBreaks indent (c.rest.length + 1) c
      let continued := c.column = indent && !c.rest.isEmpty
      let joint : Text :=
        if !continued then []
        else if fold && last = ['\n'] && !startsWithSpace && !(c.peek.map isSpace).getD false then
          if after.isEmpty then [' '] else []
        else last
      let (more, last, after, c) := blockLines fold indent n after last c
      (breaks ++ line ++ joint ++ more, last, after, c)
    else ([], last, breaks, c)

def block? (fold : Bool) (outer : Int) (c : Cursor) : Option (Text × Cursor) := do
  let (head, c) ← blockHead? c
  let least := (max (outer + 1) 1).toNat
  let (indent, breaks, c) :=
    match head.indent with
    | none =>
      let (breaks, greatest, c) := findIndent (c.rest.length + 1) c
      (max least greatest, breaks, c)
    | some n =>
      let indent := least + n - 1
      let (breaks, c) := blockBreaks indent (c.rest.length + 1) c
      (indent, breaks, c)
  let (text, last, after, c) := blockLines fold indent (c.rest.length + 1) breaks [] c
  let ending : Text :=
    match head.keepEnd with
    | none => last
    | some false => []
    | some true => last ++ after
  return (text ++ ending, c)

end Stencil.Yaml

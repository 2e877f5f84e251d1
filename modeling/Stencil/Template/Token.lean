import Stencil.Decimal.Reading
import Stencil.Text.Blank
import Stencil.Text.Numeral
import Stencil.Text.Utf8

namespace Stencil.Template

inductive Token
  | data (t : Text)
  | openBlock
  | closeBlock
  | openOutput
  | closeOutput
  | name (t : Text)
  | string (t : Text)
  | int (n : Int)
  | float (x : Float)
  | symbol (s : String)

def octalPrefix (limit : Nat) (t : Text) : Text :=
  (t.take limit).takeWhile fun c => '0' ≤ c && c ≤ '7'

def charOf? (n : Nat) : Option Char :=
  if n < 0x110000 then some (Char.ofNat n) else none

def simpleEscape? (c : Char) : Option Char :=
  if c = '\\' || c = '\'' || c = '"' then some c
  else if c = 'n' then some '\n'
  else if c = 't' then some '\t'
  else if c = 'r' then some '\r'
  else if c = 'a' then some '\x07'
  else if c = 'b' then some '\x08'
  else if c = 'f' then some '\x0c'
  else if c = 'v' then some '\x0b'
  else none

def escapeWidth? (c : Char) : Option Nat :=
  if c = 'x' then some 2 else if c = 'u' then some 4 else if c = 'U' then some 8 else none

def hexDigits? (t : Text) : Option Nat :=
  t.foldlM (fun n c => (Text.digit? c).bind fun d => if d < 16 then some (n * 16 + d) else none) 0

/-- The text of a string literal; `skip` counts the characters of an escape that are still to be
passed over. An escape without meaning stands for itself. -/
def unescapeFrom? : Nat → Text → Option Text
  | _, [] => some []
  | skip + 1, _ :: t => unescapeFrom? skip t
  | 0, '\\' :: t =>
    match t with
    | [] => none
    | c :: rest =>
      match simpleEscape? c with
      | some d => (unescapeFrom? 1 t).map (d :: ·)
      | none =>
        if c = '\n' then unescapeFrom? 1 t
        else if '0' ≤ c && c ≤ '7' then
          let digits := octalPrefix 3 t
          (unescapeFrom? digits.length t).map
            (Char.ofNat (digits.foldl (fun n c => n * 8 + (c.toNat - '0'.toNat)) 0) :: ·)
        else
          match escapeWidth? c with
          | some width =>
            if (rest.take width).length < width then none
            else
              match (hexDigits? (rest.take width)).bind charOf? with
              | some d => (unescapeFrom? (width + 1) t).map (d :: ·)
              | none => none
          | none =>
            if c.toNat < 0x80 then (unescapeFrom? 0 t).map ('\\' :: ·)
            -- A character behind ASCII counts as its own escape, of which the mark is doubled.
            else if c.toNat < 0x100 then
              (unescapeFrom? 1 t).map fun s => '\\' :: 'x' :: Text.hex 2 c.toNat ++ s
            else if c.toNat < 0x10000 then
              (unescapeFrom? 1 t).map fun s => '\\' :: 'u' :: Text.hex 4 c.toNat ++ s
            else (unescapeFrom? 1 t).map fun s => '\\' :: 'U' :: Text.hex 8 c.toNat ++ s
  | 0, c :: t => (unescapeFrom? 0 t).map (c :: ·)

/-- Splits a string literal behind its opening quote; `escaped` tells that a backslash stands in
front. -/
def stringBody? (quote : Char) (escaped : Bool) : Text → Option (Text × Text)
  | [] => none
  | c :: t =>
    if escaped then (stringBody? quote false t).map fun (body, rest) => (c :: body, rest)
    else if c = quote then some ([], t)
    else (stringBody? quote (c = '\\') t).map fun (body, rest) => (c :: body, rest)

def digitGroup (p : Char → Bool) : Text → Text × Text
  | [] => ([], [])
  | c :: t =>
    if p c then
      let (ds, rest) := digitGroup p t
      (c :: ds, rest)
    else if c = '_' then
      match t with
      | d :: _ =>
        if p d then
          let (ds, rest) := digitGroup p t
          (c :: ds, rest)
        else ([], c :: t)
      | [] => ([], c :: t)
    else ([], c :: t)

def digitGroup? (p : Char → Bool) (t : Text) : Option (Text × Text) :=
  match t with
  | c :: _ => if p c then some (digitGroup p t) else none
  | [] => none

def exponent? (t : Text) : Option (Int × Text) :=
  match t with
  | c :: rest =>
    if c = 'e' || c = 'E' then
      let (negative, rest) : Bool × Text :=
        match rest with
        | '-' :: rest => (true, rest)
        | '+' :: rest => (false, rest)
        | _ => (false, rest)
      (digitGroup? Text.isAsciiDigit rest).map fun (ds, rest) =>
        let n : Int := Decimal.digitValue ds
        (if negative then -n else n, rest)
    else none
  | [] => none

def float? (t : Text) : Option (Token × Text) := do
  let (whole, rest) ← digitGroup? Text.isAsciiDigit t
  let places :=
    match rest with
    | '.' :: rest => digitGroup? Text.isAsciiDigit rest
    | _ => none
  match places with
  | some (places, rest) =>
    let (e, rest) := (exponent? rest).getD (0, rest)
    return (.float (Decimal.ofParts false whole places e), rest)
  | none =>
    let (e, rest) ← exponent? rest
    return (.float (Decimal.ofParts false whole [] e), rest)

def isBaseDigit (base : Nat) (c : Char) : Bool :=
  c.toNat < 0x80 && ((Text.digit? c).map fun d => decide (d < base)).getD false

def based? (base : Nat) (t : Text) : Option (Token × Text) := do
  let t :=
    match t with
    | '_' :: rest => rest
    | _ => t
  let (ds, rest) ← digitGroup? (isBaseDigit base) t
  return (.int (ds.foldl (fun n c => ((Text.digit? c).map (n * base + ·)).getD n) 0), rest)

def decimal? (t : Text) : Option (Token × Text) := do
  let p : Char → Bool := if t.head? = some '0' then (· = '0') else Text.isAsciiDigit
  let (ds, rest) ← digitGroup? p t
  return (.int (Decimal.digitValue ds), rest)

def int? (t : Text) : Option (Token × Text) :=
  let marked :=
    match t with
    | '0' :: c :: rest =>
      if c = 'b' || c = 'B' then based? 2 rest
      else if c = 'o' || c = 'O' then based? 8 rest
      else if c = 'x' || c = 'X' then based? 16 rest
      else none
    | _ => none
  match marked with
  | some r => some r
  | none => decimal? t

def longSymbols : List String :=
  ["//", "**", "==", "!=", ">=", "<="]

def shortSymbols : List String :=
  ["+", "-", "/", "*", "%", "~", "[", "]", "(", ")", "\x7b", "\x7d", ">", "<", "=", ".", ":", "|",
    ",", ";"]

def symbol? (t : Text) : Option (String × Text) :=
  (longSymbols ++ shortSymbols).findSome? fun s : String =>
    (Text.after? s.toList t).map fun rest => (s, rest)

/-- One token inside a tag; `behindPoint` tells that a point stands in front, behind which digits are
a whole number. -/
def token? (behindPoint : Bool) (t : Text) : Option (Token × Text) :=
  match if behindPoint then none else float? t with
  | some r => some r
  | none =>
    match int? t with
    | some r => some r
    | none =>
      match t with
      | [] => none
      | c :: rest =>
        if Text.isWordChar c then
          if (Text.decimalDigit? c).isSome then none
          else some (.name (t.takeWhile Text.isWordChar), t.dropWhile Text.isWordChar)
        else if c = '\'' || c = '"' then do
          let (body, rest) ← stringBody? c false rest
          return (.string (← unescapeFrom? 0 body), rest)
        else (symbol? t).map fun (s, rest) => (.symbol s, rest)

def dropBlank (t : Text) : Bool × Text :=
  ((t.takeWhile Text.isBlankChar).getLast? == some '\n', t.dropWhile Text.isBlankChar)

def dropLineBreak : Text → Bool × Text
  | '\n' :: t => (true, t)
  | t => (false, t)

def edge? (mark : Char) : Text → Option (Bool × Text)
  | '+' :: c :: '}' :: t => if c = mark then some (false, t) else none
  | '-' :: c :: '}' :: t => if c = mark then some (dropBlank t) else none
  | c :: '}' :: t => if c = mark then some (dropLineBreak t) else none
  | _ => none

def outputEdge? : Text → Option (Bool × Text)
  | '-' :: '}' :: '}' :: t => some (dropBlank t)
  | '}' :: '}' :: t => some (false, t)
  | _ => none

def sign : Text → Option Char × Text
  | '-' :: t => (some '-', t)
  | '+' :: t => (some '+', t)
  | t => (none, t)

def lastLine (t : Text) : Text :=
  (t.reverse.takeWhile (· ≠ '\n')).reverse

/-- The text in front of a tag: without white space at its end for a minus sign, and without that of
a line that holds nothing else, unless the tag is an output. -/
def textBefore (sign : Option Char) (isOutput lineBegins : Bool) (t : Text) : Text :=
  if sign = some '-' then Text.stripEnd t
  else if sign = some '+' || isOutput then t
  else
    let line := lastLine t
    if (lineBegins || line.length < t.length) && !line.isEmpty && Text.isBlank line then
      t.take (t.length - line.length)
    else t

def dataToken (t : Text) : List Token :=
  if t.isEmpty then [] else [.data t]

def untilTag : Text → Text × Text
  | [] => ([], [])
  | c :: t =>
    let opens := c = '{' && (match t with | d :: _ => d = '%' || d = '{' || d = '#' | [] => false)
    if opens then ([], c :: t)
    else
      let (before, rest) := untilTag t
      (c :: before, rest)

def skipComment? : Text → Option (Bool × Text)
  | [] => none
  | c :: t =>
    match edge? '#' (c :: t) with
    | some r => some r
    | none => skipComment? t

/-- A tag with one word in it, whose end is read by `edge`. -/
def wordTag? (word : Text) (edge : Text → Option (Bool × Text)) (t : Text) :
    Option (Option Char × Bool × Text) := do
  let rest ← Text.after? ['{', '%'] t
  let (s, rest) := sign rest
  let rest ← Text.after? word (Text.stripStart rest)
  let (lineBegins, rest) ← edge (Text.stripStart rest)
  return (s, lineBegins, rest)

def rawEdge? : Text → Option (Bool × Text)
  | '-' :: '%' :: '}' :: t => some (dropBlank t)
  | '%' :: '}' :: t => some (false, t)
  | _ => none

def rawBody? (lineBegins : Bool) (before : Text) : Text → Option (Text × Bool × Text)
  | [] => none
  | c :: t =>
    match wordTag? "endraw" (edge? '%') (c :: t) with
    | some (s, lineBegins', rest) =>
      some (textBefore s false lineBegins before, lineBegins', rest)
    | none => rawBody? lineBegins (before ++ [c]) t

def closing? (s : String) : Option String :=
  if s = "(" then some ")" else if s = "[" then some "]" else if s = "\x7b" then some "\x7d" else none

def isClosing (s : String) : Bool :=
  s = ")" || s = "]" || s = "\x7d"

/-- The tokens of a tag up to its end, which is not looked for inside brackets. The first number
bounds the count of tokens. -/
def tagTokens? (isOutput : Bool) : Nat → List String → Bool → Text →
    Option (List Token × Bool × Text)
  | 0, _, _, _ => none
  | n + 1, brackets, behindPoint, t =>
    match if brackets.isEmpty then (if isOutput then outputEdge? t else edge? '%' t) else none with
    | some (lineBegins, rest) =>
      some ([if isOutput then .closeOutput else .closeBlock], lineBegins, rest)
    | none =>
      match t with
      | [] => some ([], false, [])
      | c :: _ =>
        if Text.isBlankChar c then tagTokens? isOutput n brackets false (Text.stripStart t)
        else
          match token? behindPoint t with
          | none => none
          | some (token, rest) =>
            let brackets? : Option (List String) :=
              match token with
              | .symbol s =>
                match closing? s with
                | some close => some (close :: brackets)
                | none =>
                  if isClosing s then
                    match brackets with
                    | close :: others => if close = s then some others else none
                    | [] => none
                  else some brackets
              | _ => some brackets
            let isPoint : Bool :=
              match token with
              | .symbol s => s = "."
              | _ => false
            match brackets? with
            | none => none
            | some brackets =>
              (tagTokens? isOutput n brackets isPoint rest).map fun (tokens, r) =>
                (token :: tokens, r)

def tokensFrom? : Nat → Bool → Text → Option (List Token)
  | 0, _, _ => none
  | n + 1, lineBegins, t =>
    let (before, rest) := untilTag t
    match wordTag? "raw" rawEdge? rest with
    | some (s, lineBegins', rest) =>
      match rawBody? lineBegins' [] rest with
      -- An opening at the very end of the template needs no end tag.
      | none => if rest.isEmpty then some (dataToken (textBefore s false lineBegins before)) else none
      | some (body, lineBegins', rest) =>
        (tokensFrom? n lineBegins' rest).map fun tokens =>
          dataToken (textBefore s false lineBegins before) ++ dataToken body ++ tokens
    | none =>
      match rest with
      | '{' :: '#' :: rest =>
        let (s, rest) := sign rest
        match skipComment? rest with
        | none => if rest.isEmpty then some (dataToken (textBefore s false lineBegins before)) else none
        | some (lineBegins', rest) =>
          (tokensFrom? n lineBegins' rest).map fun tokens =>
            dataToken (textBefore s false lineBegins before) ++ tokens
      | '{' :: c :: rest =>
        let isOutput : Bool := c = '{'
        let (s, rest) := sign rest
        match tagTokens? isOutput (rest.length + 1) [] false rest with
        | none => none
        | some (inside, lineBegins', rest) =>
          (tokensFrom? n lineBegins' rest).map fun tokens =>
            dataToken (textBefore s isOutput lineBegins before) ++
              [if isOutput then .openOutput else .openBlock] ++ inside ++ tokens
      | _ => some (dataToken before)

/-- The tokens of a template. A line break right behind a tag or comment is dropped, and so is white
space on a line in front of one; a minus sign at a tag's edge drops all white space on that side. -/
def tokens? (source : Text) : Option (List Token) :=
  tokensFrom? (source.length + 1) true (Text.normalizeNewlines source)

end Stencil.Template

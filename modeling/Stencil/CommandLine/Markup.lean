import Stencil.Fault
import Stencil.Text.Blank
import Stencil.Text.Case

namespace Stencil.Markup

inductive Piece
  | text (t : Text)
  | tag (t : Text)
  deriving DecidableEq

def startsTag (c : Char) : Bool :=
  ('a' ≤ c && c ≤ 'z') || c = '#' || c = '/' || c = '@'

/-- The inside of a tag behind its opening bracket, and what follows its closing bracket. -/
def tag? : Text → Option (Text × Text)
  | [] => none
  | c :: t =>
    let inside := t.takeWhile fun d => d ≠ ']' && d ≠ '['
    match t.drop inside.length with
    | ']' :: rest => if startsTag c then some (c :: inside, rest) else none
    | _ => none

def pushChar (c : Char) : List Piece → List Piece
  | .text t :: pieces => .text (c :: t) :: pieces
  | pieces => .text [c] :: pieces

/-- The pieces of console markup: tags in square brackets, such as `[red]` and `[/red]`, that style the
text between them. Two backslashes in front of a tag stand for one, and a single one makes the tag plain
text. An empty text keeps pieces apart. -/
def pieces : Nat → Text → List Piece
  | 0, _ => []
  | _, [] => []
  | n + 1, c :: t =>
    let slashes := (c :: t).takeWhile (· = '\\')
    match (c :: t).drop slashes.length with
    | '[' :: rest =>
      match tag? rest with
      | some (inside, rest) =>
        let front : Text := List.replicate (slashes.length / 2) '\\'
        if slashes.length % 2 = 0 then
          [.text [], .text front, .tag inside] ++ pieces n rest
        else [.text [], .text front, .text ('[' :: inside ++ [']'])] ++ pieces n rest
      | none => pushChar c (pieces n t)
    | _ => pushChar c (pieces n t)

def plainPiece (t : Text) : Text :=
  Text.replace ['\\', '['] ['['] t

def nameOf (tag : Text) : Text :=
  Text.lower (Text.strip (tag.takeWhile (· ≠ '=')))

def closeNamed (name : Text) (opened : List Text) : Option (List Text) :=
  if opened.contains name then some (opened.erase name) else none

/-- The text of pieces, given the tags that are open, innermost first. A closing tag needs an open
one. -/
def textOf (opened : List Text) : List Piece → Except Fault Text
  | [] => .ok []
  | .text t :: pieces => do return plainPiece t ++ (← textOf opened pieces)
  | .tag t :: pieces =>
    match t with
    | '/' :: name =>
      let left :=
        if (nameOf name).isEmpty then
          match opened with
          | [] => none
          | _ :: opened => some opened
        else closeNamed (nameOf name) opened
      match left with
      | some opened => textOf opened pieces
      | none => .error (.general .badMarkup)
    | _ => textOf (nameOf t :: opened) pieces

/-- The characters that a console does not show: bell, backspace and those that move the cursor. -/
def isControl (c : Char) : Bool :=
  c = '\x07' || c = '\x08' || c = '\x0b' || c = '\x0c' || c = '\r'

def plain (t : Text) : Except Fault Text := do
  return (← if t.contains '[' then textOf [] (pieces (t.length + 1) t) else pure t).filter
    (!isControl ·)

end Stencil.Markup

import Stencil.Text.Word

namespace Stencil.Name

open Text

def isSmallOrDigit (c : Char) : Bool :=
  isAsciiLower c || isAsciiDigit c

def hump? : Text → Option (Text × Text)
  | a :: b :: _ => if isSmallOrDigit a && isAsciiUpper b then some ([a], [b]) else none
  | _ => none

def capitalized? : Text → Option Text
  | a :: b :: _ => if isAsciiUpper a && isAsciiLower b then some [a, b] else none
  | _ => none

/-- Capitals in front of a text, as many as there can be, and behind them one more with a small
letter. -/
def acronym? : Text → Option (Text × Text)
  | [] => none
  | a :: t =>
    if isAsciiUpper a then
      match acronym? t with
      | some (capitals, last) => some (a :: capitals, last)
      | none => (capitalized? t).map fun last => ([a], last)
    else none

/-- Puts a space between the two parts of every match, from left to right; `skip` counts the
characters of a match that are still to be passed over. -/
def spaceFrom (find? : Text → Option (Text × Text)) : Nat → Text → Text
  | _, [] => []
  | skip + 1, _ :: t => spaceFrom find? skip t
  | 0, c :: t =>
    match find? (c :: t) with
    | some (left, right) =>
      left ++ ' ' :: right ++ spaceFrom find? (left.length + right.length - 1) t
    | none => c :: spaceFrom find? 0 t

def spaceMatches (find? : Text → Option (Text × Text)) (t : Text) : Text :=
  spaceFrom find? 0 t

def spaceHumps : Text → Text
  | a :: b :: t =>
    if isSmallOrDigit a && isAsciiUpper b then a :: ' ' :: spaceHumps (b :: t)
    else a :: spaceHumps (b :: t)
  | t => t

def spaceAcronyms : Text → Text
  | a :: b :: c :: t =>
    if isAsciiUpper a && isAsciiUpper b && isAsciiLower c then
      a :: ' ' :: spaceAcronyms (b :: c :: t)
    else a :: spaceAcronyms (b :: c :: t)
  | t => t

def runs (t : Text) : List Text :=
  (t.splitOnP fun c => !isAsciiAlphanumeric c).filter fun run => !run.isEmpty

/-- The words of a name, from left to right. Separators, a capital behind a small letter or a digit, and
the last capital of an acronym in front of a small letter all start a new word. -/
def splitWords (t : Text) : List Text :=
  runs (spaceMatches acronym? (spaceMatches hump? t))

/-- A word ends behind `a` if `b` follows it and `t` comes behind `b`. -/
def endsWord (a b : Char) (t : Text) : Bool :=
  isSmallOrDigit a && isAsciiUpper b ||
    isAsciiUpper a && isAsciiUpper b && (t.head?.map isAsciiLower).getD false

/-- Cuts a run of letters and digits into its words in one pass. -/
def cutRun : Text → List Text
  | [] => []
  | [a] => [[a]]
  | a :: b :: t =>
    if endsWord a b t then [a] :: cutRun (b :: t)
    else
      match cutRun (b :: t) with
      | [] => [[a]]
      | word :: words => (a :: word) :: words

end Stencil.Name

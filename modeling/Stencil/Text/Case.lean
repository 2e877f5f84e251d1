import Stencil.Text.CaseTable

namespace Stencil.Text

/-- The code point a table of runs assigns, or the code point itself. -/
def mapByRuns (runs : List CaseRun) (n : Nat) : Nat :=
  match runs.find? (·.covers n) with
  | some r => (n + r.shift).toNat
  | none => n

def upperChar (c : Char) : Text :=
  if c.toNat < 0x80 then [c.toUpper]
  else
    match upperExpansions.lookup c.toNat with
    | some cs => cs.map Char.ofNat
    | none => [Char.ofNat (mapByRuns upperRuns c.toNat)]

def lowerChar (c : Char) : Text :=
  if c.toNat < 0x80 then [c.toLower]
  else if c = 'İ' then ['i', '\u0307']
  else [Char.ofNat (mapByRuns lowerRuns c.toNat)]

def upper (t : Text) : Text :=
  t.flatMap upperChar

def isCased (c : Char) : Bool :=
  inRanges casedRanges c

def isCaseIgnorable (c : Char) : Bool :=
  inRanges caseIgnorableRanges c

/-- The next character that counts has letter case. -/
def continuesWord (t : Text) : Bool :=
  match t.dropWhile isCaseIgnorable with
  | [] => false
  | c :: _ => isCased c

/-- `inWord` tells whether the last character that counts has letter case: a capital sigma behind
it becomes the final small sigma if the word ends there. -/
def lowerFrom (inWord : Bool) : Text → Text
  | [] => []
  | c :: t =>
    if c.toNat < 0x80 then c.toLower :: lowerFrom (if isCaseIgnorable c then inWord else isCased c) t
    else
      (if c = 'Σ' then if inWord && !continuesWord t then ['ς'] else ['σ'] else lowerChar c) ++
        lowerFrom (if isCaseIgnorable c then inWord else isCased c) t

def lower (t : Text) : Text :=
  lowerFrom false t

def upperFirst : Text → Text
  | [] => []
  | c :: t => upperChar c ++ t

def lowerFirst : Text → Text
  | [] => []
  | c :: t => lowerFrom false [c] ++ t

end Stencil.Text

import Stencil.Text.Basic

namespace Stencil.Text

def blankRanges : List (Nat × Nat) :=
  [(0x09, 0x0D), (0x1C, 0x20), (0x85, 0x85), (0xA0, 0xA0), (0x1680, 0x1680), (0x2000, 0x200A),
    (0x2028, 0x2029), (0x202F, 0x202F), (0x205F, 0x205F), (0x3000, 0x3000)]

def isBlankChar (c : Char) : Bool :=
  inRanges blankRanges c

def isBlank (t : Text) : Bool :=
  t.all isBlankChar

def stripEnd (t : Text) : Text :=
  trimEnd isBlankChar t

def stripStart (t : Text) : Text :=
  t.dropWhile isBlankChar

def strip (t : Text) : Text :=
  trim isBlankChar t

theorem length_strip_le (t : Text) : (strip t).length ≤ t.length :=
  Nat.le_trans (length_trimEnd_le _ _) (List.dropWhile_sublist _).length_le

/-- Each run of white space becomes one space; `inRun` tells that the space of the current run is
already written. -/
def squeezeFrom (inRun : Bool) : Text → Text
  | [] => []
  | c :: t =>
    if isBlankChar c then
      if inRun then squeezeFrom true t else ' ' :: squeezeFrom true t
    else c :: squeezeFrom false t

def squeeze (t : Text) : Text :=
  squeezeFrom false t

end Stencil.Text

import Stencil.Text.Blank
import Stencil.Text.Case

namespace Stencil.Tidy

def maxBlankLines : Nat := 2

def isProse (filename : Text) : Bool :=
  Text.endsWith ".md" (Text.lower filename) || Text.endsWith ".txt" (Text.lower filename)

/-- Tidies the lines behind a number of blank ones. -/
def linesFrom (blanks : Nat) : List Text → List Text
  | [] => []
  | line :: rest =>
    if Text.isBlank line then
      if blanks < maxBlankLines then [] :: linesFrom (blanks + 1) rest else linesFrom blanks rest
    else Text.stripEnd line :: linesFrom 0 rest

/-- The tidy form of a file's body: no white space at the ends of lines and at most two empty lines in a
row. Prose is left alone. -/
def apply (filename body : Text) : Text :=
  if isProse filename then body else Text.unlines (linesFrom 0 (Text.lines body))

end Stencil.Tidy

import Stencil.Output.File
import Stencil.Text.Blank
import Stencil.Text.Quoted
import Stencil.Text.Word

namespace Stencil

namespace Directive

def marker : Text := "#FILENAME:"

def wordAhead (token t : Text) : Bool :=
  match Text.after? token t with
  | some [] => true
  | some (c :: _) => !Text.isWordChar c
  | none => false

/-- The first mode token that stands as a word of its own; `inWord` tells that a word character
stands in front of the text. -/
def modeFrom (inWord : Bool) : Text → Option WriteMode
  | [] => none
  | c :: t =>
    match if inWord then none else WriteMode.all.find? fun mode => wordAhead mode.token (c :: t) with
    | some mode => some mode
    | none => modeFrom (Text.isWordChar c) t

/-- The write mode that a token asks for; any other text asks for the usual one. -/
def parseMode (token : Text) : WriteMode :=
  (modeFrom false token).getD .writeAlways

def isPermissions (t : Text) : Bool :=
  (t.length = 3 || t.length = 4) && t.all fun c => '0' ≤ c && c ≤ '7'

def header? (line : Text) : Option Text :=
  (Text.cut? marker line).map Prod.snd

def fields (header : Text) : List Text :=
  (header.splitOn ':').map Text.strip

def permissionsField (header : Text) : Text :=
  match (fields header)[2]? with
  | some t => if t.isEmpty then defaultPermissions else t
  | none => defaultPermissions

end Directive

structure Segment where
  filename : Text
  mode : WriteMode := .writeAlways
  permissions : Text := defaultPermissions
  lines : List Text := []
  deriving DecidableEq, Repr

namespace Segment

def isBlank (s : Segment) : Bool :=
  s.lines.all Text.isBlank

def ofHeader (header : Text) : Segment where
  filename := ((Directive.fields header)[0]?).getD []
  mode := Directive.parseMode (((Directive.fields header)[1]?).getD [])
  permissions :=
    if Directive.isPermissions (Directive.permissionsField header) then
      Directive.permissionsField header
    else defaultPermissions

def isKept (s : Segment) : Bool :=
  s.mode ≠ .skip && !s.isBlank

def close (hook : Text → Text → Text) (s : Segment) : GeneratedFile where
  filename := s.filename
  content := hook s.filename (Text.unlines s.lines)
  mode := s.mode
  permissions := s.permissions

end Segment

structure Splitter where
  segment : Segment
  files : List GeneratedFile := []
  deriving DecidableEq, Repr

namespace Splitter

def start (defaultFilename : Text) : Splitter where
  segment := { filename := defaultFilename }

def flush (hook : Text → Text → Text) (s : Splitter) : Splitter :=
  if s.segment.isKept then { s with files := s.files ++ [s.segment.close hook] } else s

/-- Reads one line: it is collected, or opens a segment, or is dropped because nothing stands behind
the marker. -/
def feed (hook : Text → Text → Text) (s : Splitter) (line : Text) : Splitter :=
  match Directive.header? line with
  | none => { s with segment := { s.segment with lines := s.segment.lines ++ [line] } }
  | some header =>
    if Text.isBlank header then s
    else { flush hook s with segment := Segment.ofHeader header }

/-- Closes the open segment, which stays open; the files so far are the result. -/
def finish (hook : Text → Text → Text) (s : Splitter) : List GeneratedFile × Splitter :=
  ((flush hook s).files, flush hook s)

def warnings (line : Text) : List Text :=
  match Directive.header? line with
  | none => []
  | some header =>
    if Text.isBlank header then ["Invalid file header format in line: " ++ line]
    else if Directive.isPermissions (Directive.permissionsField header) then []
    else
      ["Invalid permissions " ++ Text.quoted (Directive.permissionsField header) ++ " for " ++
        (Segment.ofHeader header).filename ++ ", using " ++ defaultPermissions]

end Splitter

def keepBody (_ body : Text) : Text :=
  body

/-- The files of a rendered text, in order; each body is passed through a hook. A line with the marker
and something behind it opens the next file:

    #FILENAME:<filename>[:<mode>[:<permissions>]]

What stands in front of the first such line belongs to the default file. Blank files and those of mode
`skip` are dropped. -/
def splitFiles (defaultFilename source : Text) (hook : Text → Text → Text := keepBody) :
    List GeneratedFile :=
  (((Text.lines source).foldl (Splitter.feed hook) (Splitter.start defaultFilename)).finish hook).1

def splitWarnings (source : Text) : List Text :=
  (Text.lines source).flatMap Splitter.warnings

end Stencil

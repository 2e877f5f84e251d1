import Stencil.Text.Basic

namespace Stencil

structure Path where
  /-- One or two slashes in front of an absolute path, nothing in front of a relative one. -/
  root : Text := []
  parts : List Text := []
  deriving DecidableEq, Repr

namespace Path

/-- The components of a text. Empty ones and single dots count for nothing; two dots are kept, because
only a disk can tell what they mean. -/
def partsOf (t : Text) : List Text :=
  (t.splitOn '/').filter fun part => part ≠ [] && part ≠ ['.']

/-- The slashes in front of a text: exactly two are kept, any other number counts as one. -/
def rootOf (t : Text) : Text :=
  match (t.takeWhile (· = '/')).length with
  | 0 => []
  | 2 => ['/', '/']
  | _ => ['/']

def parse (t : Text) : Path :=
  ⟨rootOf t, partsOf t⟩

def isAbsolute (p : Path) : Bool :=
  !p.root.isEmpty

def toText (p : Path) : Text :=
  if p.root.isEmpty && p.parts.isEmpty then ['.'] else p.root ++ Text.join ['/'] p.parts

/-- A path inside another; an absolute one stays as it is. -/
def join (p q : Path) : Path :=
  if q.isAbsolute then q else { p with parts := p.parts ++ q.parts }

def child (p : Path) (t : Text) : Path :=
  p.join (parse t)

def parent (p : Path) : Path :=
  { p with parts := p.parts.dropLast }

def name (p : Path) : Text :=
  (p.parts.getLast?).getD []

/-- The last point of the name and what follows it; a point at either end of the name does not
count. -/
def suffix (p : Path) : Text :=
  let behind := (p.name.reverse.takeWhile (· ≠ '.')).reverse
  if behind.length + 1 < p.name.length && !behind.isEmpty then '.' :: behind else []

/-- The components with every pair of dots taken back. -/
def collapse : List Text → List Text → List Text
  | done, [] => done.reverse
  | done, part :: parts =>
    if part = ['.', '.'] then collapse done.tail parts else collapse (part :: done) parts

def absolute (p : Path) (directory : List Text) : Path :=
  if p.isAbsolute then { p with parts := collapse [] p.parts }
  else ⟨['/'], collapse [] (directory ++ p.parts)⟩

end Path

end Stencil

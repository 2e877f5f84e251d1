import Stencil.Fault
import Stencil.Text.Case
import Stencil.Text.Word

namespace Stencil

structure Url where
  scheme : Text := []
  host : Text := []
  path : Text := []
  deriving DecidableEq, Repr

namespace Url

/-- The text without control characters and spaces in front, and without tabs and line breaks. -/
def cleaned (t : Text) : Text :=
  (t.dropWhile (· ≤ ' ')).filter fun c => c ≠ '\t' && c ≠ '\n' && c ≠ '\r'

def isAsciiLetter (c : Char) : Bool :=
  Text.isAsciiUpper c || Text.isAsciiLower c

def isSchemeChar (c : Char) : Bool :=
  isAsciiLetter c || Text.isAsciiDigit c || c = '+' || c = '-' || c = '.'

def splitScheme (t : Text) : Text × Text :=
  match Text.cut? ":" t with
  | some (scheme, rest) =>
    if ((scheme.head?.map isAsciiLetter).getD false) && scheme.all isSchemeChar then
      (Text.lower scheme, rest)
    else ([], t)
  | none => ([], t)

def splitHost : Text → Text × Text
  | '/' :: '/' :: t => t.span fun c => c ≠ '/' && c ≠ '?' && c ≠ '#'
  | t => ([], t)

def schemesWithParameters : List Text :=
  ["", "ftp", "hdl", "prospero", "http", "https", "imap", "mms", "rtsp", "rtsps", "rtspu", "sftp",
    "shttp", "sip", "sips", "tel"]

/-- The path without parameters, which follow a semicolon in its last component. -/
def dropParameters (path : Text) : Text :=
  let last := (path.reverse.takeWhile (· ≠ '/')).reverse
  path.take (path.length - last.length) ++ last.takeWhile (· ≠ ';')

/-- Reads a URL. Square brackets in a host come in pairs. -/
def parse (t : Text) : Except Fault Url := do
  let (scheme, rest) := splitScheme (cleaned t)
  let (host, rest) := splitHost rest
  if host.contains '[' ≠ host.contains ']' then throw (.general .badValue)
  let path := rest.takeWhile fun c => c ≠ '?' && c ≠ '#'
  return ⟨scheme, host, if schemesWithParameters.contains scheme then dropParameters path else path⟩

end Url

end Stencil

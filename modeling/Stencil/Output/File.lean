import Stencil.Text.Utf8

namespace Stencil

inductive WriteMode
  | writeAlways
  | createOnly
  | merge
  | skip
  deriving DecidableEq, Repr

namespace WriteMode

def token : WriteMode → Text
  | writeAlways => "write-always"
  | createOnly => "create-only"
  | merge => "merge"
  | skip => "skip"

def all : List WriteMode :=
  [merge, createOnly, writeAlways, skip]

end WriteMode

def defaultPermissions : Text := "644"

structure GeneratedFile where
  filename : Text
  content : Text
  mode : WriteMode := .writeAlways
  permissions : Text := defaultPermissions
  deriving DecidableEq, Repr

structure Asset where
  filename : Text
  mode : WriteMode
  permissions : Text
  checksum : Text
  deriving DecidableEq, Repr

/-- A file as it stands in the output directory before a merge. -/
structure SourceFile where
  filename : Text
  content : Text
  permissions : Text := defaultPermissions
  deriving DecidableEq, Repr

end Stencil

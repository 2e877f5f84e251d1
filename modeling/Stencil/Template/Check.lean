import Stencil.Fault
import Stencil.Helper.Table
import Stencil.Template.Parser
import Stencil.Template.Traversal

namespace Stencil.Template

def ownFilters : List Text :=
  ["join", "length", "count", "default", "d", "first"].map String.toList

def ownTests : List Text :=
  ["defined", "undefined", "none", "string", "number", "integer", "float", "boolean", "true",
    "false", "mapping", "sequence", "iterable", "callable", "even", "odd", "in", "eq", "equalto",
    "==", "ne", "!="].map String.toList

def isFilter (name : Text) : Bool :=
  ownFilters.contains name || Helper.filterNames.contains name

def isTest (name : Text) : Bool :=
  ownTests.contains name

namespace Expr

/-- The filters and tests exist, unless they stand inside a condition. -/
def isKnown : Nat → Bool → Expr → Bool
  | 0, _, _ => true
  | n + 1, inCondition, e =>
    let inside :=
      match e with
      | conditional .. => true
      | _ => inCondition
    (match e with
      | filter _ f _ => inCondition || isFilter f
      | test _ t _ => inCondition || isTest t
      | _ => true) && e.parts.all (isKnown n inside)

end Expr

namespace Stmt

/-- The statement's filters and tests exist, and a loop that uses its own variable does not assign
to it. -/
def isSound : Nat → Bool → Stmt → Bool
  | 0, _, _ => true
  | n + 1, inCondition, s =>
    match s with
    | conditional .. => s.exprs.all (Expr.isKnown n true) && s.inner.all (isSound n true)
    | loop _ items _ body _ =>
      Expr.isKnown n inCondition items && (s.exprs.drop 1).all (Expr.isKnown n false) &&
        s.inner.all (isSound n false) && !(mentions "loop" body && assigns "loop" n s)
    | callBlock .. =>
      s.exprs.all (Expr.isKnown n inCondition) &&
        s.inner.all (isSound n false)
    | assignBlock _ _ _ => s.exprs.all (Expr.isKnown n false) && s.inner.all (isSound n false)
    | _ => s.exprs.all (Expr.isKnown n inCondition) && s.inner.all (isSound n inCondition)

end Stmt

def compile (source : Text) : Except GeneralFault (List Stmt) :=
  match parse? source with
  | none => .error .syntaxError
  | some body =>
    if body.all (Stmt.isSound depthLimit false) then .ok body else .error .assertion

end Stencil.Template

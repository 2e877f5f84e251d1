import Stencil.Template.Syntax

namespace Stencil.Template

namespace Operands

def parts : Operands → List Expr
  | .mk values named rest options => values ++ named.map Prod.snd ++ rest.toList ++ options.toList

end Operands

namespace Expr

def parts : Expr → List Expr
  | literal _ => []
  | name _ => []
  | list items => items
  | tuple items => items
  | dict entries => entries.flatMap fun (k, v) => [k, v]
  | field e _ => [e]
  | item e i => [e, i]
  | slice e start stop step => e :: start.toList ++ stop.toList ++ step.toList
  | call f arguments => f :: arguments.parts
  | filter e _ arguments => e.toList ++ arguments.parts
  | test e _ arguments => e :: arguments.parts
  | unary _ e => [e]
  | binary _ l r => [l, r]
  | both l r => [l, r]
  | either l r => [l, r]
  | compare e rest => e :: rest.map Prod.snd
  | concat items => items
  | conditional c v other => c :: v :: other.toList

def any (p : Expr → Bool) : Nat → Expr → Bool
  | 0, _ => false
  | n + 1, e => p e || e.parts.any (any p n)

end Expr

namespace Stmt

def exprs : Stmt → List Expr
  | data _ => []
  | output e => [e]
  | conditional branches _ => branches.map Prod.fst
  | loop _ items condition _ _ => items :: condition.toList
  | assign _ e => [e]
  | assignBlock _ filter _ => filter.toList
  | callBlock parameters call _ => parameters.filterMap Prod.snd ++ [call]
  | insert source _ _ => [source]

def inner : Stmt → List Stmt
  | conditional branches other => branches.flatMap Prod.snd ++ other
  | loop _ _ _ body other => body ++ other
  | assignBlock _ _ body => body
  | callBlock _ _ body => body
  | _ => []

def anyExpr (p : Expr → Bool) : Nat → Stmt → Bool
  | 0, _ => false
  | n + 1, s => s.exprs.any (Expr.any p n) || s.inner.any (anyExpr p n)

end Stmt

def depthLimit : Nat := 100000

def mentions (n : Text) (body : List Stmt) : Bool :=
  body.any (Stmt.anyExpr (fun e => match e with | .name m => m = n | _ => false) depthLimit)

namespace Pattern

def assigns (n : Text) : Nat → Pattern → Bool
  | 0, _ => false
  | d + 1, p =>
    match p with
    | name m => m = n
    | tuple items => items.any (assigns n d)
    | field _ _ => false

end Pattern

namespace Stmt

def assigns (n : Text) : Nat → Stmt → Bool
  | 0, _ => false
  | d + 1, s =>
    (match s with
      | loop target _ _ _ _ => target.assigns n d
      | assign target _ => target.assigns n d
      | assignBlock target _ _ => target.assigns n d
      | _ => false) || s.inner.any (assigns n d)

end Stmt

end Stencil.Template

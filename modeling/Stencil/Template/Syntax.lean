import Stencil.Value.Basic

namespace Stencil.Template

inductive Unary
  | not
  | negate
  | plus
  deriving DecidableEq, Repr

inductive Binary
  | add
  | subtract
  | multiply
  | divide
  | floorDivide
  | modulo
  | power
  deriving DecidableEq, Repr

inductive Relation
  | equal
  | unequal
  | less
  | lessEqual
  | greater
  | greaterEqual
  | member
  | notMember
  deriving DecidableEq, Repr

/-- A value that a template holds itself: one that is written in it or the text of one of its
blocks. -/
inductive Literal
  | null
  | bool (b : Bool)
  | int (n : Int)
  | float (x : Float)
  | text (t : Text)
  | markup (t : Text)

def Literal.value : Literal → Value
  | null => .null
  | bool b => .bool b
  | int n => .int n
  | float x => .float x
  | text t => .text t
  | markup t => .markup t

mutual

inductive Expr
  | literal (l : Literal)
  | name (n : Text)
  | list (items : List Expr)
  | tuple (items : List Expr)
  | dict (entries : List (Expr × Expr))
  | field (e : Expr) (name : Text)
  | item (e : Expr) (index : Expr)
  | slice (e : Expr) (start stop step : Option Expr)
  | call (f : Expr) (arguments : Operands)
  /-- A filter; a filter of a set block is applied to the block's text. -/
  | filter (e : Option Expr) (name : Text) (arguments : Operands)
  | test (e : Expr) (name : Text) (arguments : Operands)
  | unary (op : Unary) (e : Expr)
  | binary (op : Binary) (left right : Expr)
  | both (left right : Expr)
  | either (left right : Expr)
  | compare (e : Expr) (rest : List (Relation × Expr))
  | concat (items : List Expr)
  | conditional (condition value : Expr) (other : Option Expr)

/-- The operands of a call: values, named values, a list of further values and a mapping of further
named values. -/
inductive Operands
  | mk (values : List Expr) (named : List (Text × Expr)) (rest options : Option Expr)

end

def Operands.none : Operands := .mk [] [] Option.none Option.none

inductive Pattern
  | name (n : Text)
  | tuple (items : List Pattern)
  /-- A field of another value, which no value of a template takes. -/
  | field (n field : Text)

inductive Stmt
  | data (t : Text)
  | output (e : Expr)
  | conditional (branches : List (Expr × List Stmt)) (other : List Stmt)
  | loop (target : Pattern) (items : Expr) (condition : Option Expr) (body other : List Stmt)
  | assign (target : Pattern) (e : Expr)
  | assignBlock (target : Pattern) (filter : Option Expr) (body : List Stmt)
  | callBlock (parameters : List (Text × Option Expr)) (call : Expr) (body : List Stmt)
  | insert (source : Expr) (ignoreMissing withContext : Bool)

end Stencil.Template

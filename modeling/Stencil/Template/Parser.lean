import Stencil.Template.Syntax
import Stencil.Template.Token

namespace Stencil.Template

abbrev Reader := StateT (List Token) Option

namespace Reader

def refuse {α : Type} : Reader α := fun _ => none

def peek : Reader (Option Token) := fun ts => some (ts.head?, ts)

def peekSecond : Reader (Option Token) := fun ts => some (ts[1]?, ts)

def drop (n : Nat) : Reader Unit := fun ts => some ((), ts.drop n)

def isSymbol (s : String) : Option Token → Bool
  | some (.symbol t) => s = t
  | _ => false

def isName (n : String) : Option Token → Bool
  | some (.name t) => n.toList = t
  | _ => false

def takeSymbol (s : String) : Reader Bool := do
  if isSymbol s (← peek) then
    drop 1
    return true
  else return false

def takeName (n : String) : Reader Bool := do
  if isName n (← peek) then
    drop 1
    return true
  else return false

def expectSymbol (s : String) : Reader Unit := do
  if !(← takeSymbol s) then refuse

def expectName (n : String) : Reader Unit := do
  if !(← takeName n) then refuse

def anyName : Reader Text := do
  match ← peek with
  | some (.name t) =>
    drop 1
    return t
  | _ => refuse

def closeBlock : Reader Unit := do
  match ← peek with
  | some .closeBlock => drop 1
  | _ => refuse

def closeOutput : Reader Unit := do
  match ← peek with
  | some .closeOutput => drop 1
  | _ => refuse

def strings : Nat → Reader Text
  | 0 => return []
  | n + 1 => do
    match ← peek with
    | some (.string t) =>
      drop 1
      return t ++ (← strings n)
    | _ => return []

def dottedName : Nat → Reader Text
  | 0 => refuse
  | n + 1 => do
    let t ← anyName
    if ← takeSymbol "." then return t ++ '.' :: (← dottedName n) else return t

end Reader

open Reader

def constant? (t : Text) : Option Literal :=
  if t = "true" || t = "True" then some (.bool true)
  else if t = "false" || t = "False" then some (.bool false)
  else if t = "none" || t = "None" then some .null
  else none

def relation? : Option Token → Option Relation
  | some (.symbol s) =>
    if s = "==" then some .equal
    else if s = "!=" then some .unequal
    else if s = "<" then some .less
    else if s = "<=" then some .lessEqual
    else if s = ">" then some .greater
    else if s = ">=" then some .greaterEqual
    else none
  | _ => none

def sum? : Option Token → Option Binary
  | some (.symbol s) => if s = "+" then some .add else if s = "-" then some .subtract else none
  | _ => none

def product? : Option Token → Option Binary
  | some (.symbol s) =>
    if s = "*" then some .multiply
    else if s = "/" then some .divide
    else if s = "//" then some .floorDivide
    else if s = "%" then some .modulo
    else none
  | _ => none

/-- A test may take one operand without brackets, which begins with one of these. -/
def beginsOperand : Option Token → Bool
  | some (.name t) => t ≠ "else" && t ≠ "or" && t ≠ "and"
  | some (.string _) => true
  | some (.int _) => true
  | some (.float _) => true
  | some (.symbol s) => s = "(" || s = "[" || s = "\x7b"
  | _ => false

/-- A tuple ends in front of these, and in front of a word that the surrounding tag waits for. -/
def endsTuple (word : Option String) : Option Token → Bool
  | some .closeOutput => true
  | some .closeBlock => true
  | some (.symbol s) => s = ")"
  | some (.name t) => (word.map fun w => decide (w.toList = t)).getD false
  | _ => false

inductive Level
  | primary
  | unconditional
  | full
  deriving DecidableEq

mutual

def expression : Nat → Reader Expr
  | 0 => refuse
  | n + 1 => do conditionals n (← disjunction n)

def conditionals : Nat → Expr → Reader Expr
  | 0, _ => refuse
  | n + 1, value => do
    if ← takeName "if" then
      let condition ← disjunction n
      let other ← if ← takeName "else" then some <$> expression n else pure none
      conditionals n (.conditional condition value other)
    else return value

def disjunction : Nat → Reader Expr
  | 0 => refuse
  | n + 1 => do disjunctions n (← conjunction n)

def disjunctions : Nat → Expr → Reader Expr
  | 0, _ => refuse
  | n + 1, left => do
    if ← takeName "or" then disjunctions n (.either left (← conjunction n)) else return left

def conjunction : Nat → Reader Expr
  | 0 => refuse
  | n + 1 => do conjunctions n (← negation n)

def conjunctions : Nat → Expr → Reader Expr
  | 0, _ => refuse
  | n + 1, left => do
    if ← takeName "and" then conjunctions n (.both left (← negation n)) else return left

def negation : Nat → Reader Expr
  | 0 => refuse
  | n + 1 => do
    if ← takeName "not" then return .unary .not (← negation n) else comparison n

def comparison : Nat → Reader Expr
  | 0 => refuse
  | n + 1 => do
    let e ← sum n
    let rest ← comparisons n
    if rest.isEmpty then return e else return .compare e rest

def comparisons : Nat → Reader (List (Relation × Expr))
  | 0 => refuse
  | n + 1 => do
    match relation? (← peek) with
    | some r =>
      drop 1
      let e ← sum n
      return (r, e) :: (← comparisons n)
    | none =>
      if ← takeName "in" then
        let e ← sum n
        return (.member, e) :: (← comparisons n)
      else if isName "not" (← peek) && isName "in" (← peekSecond) then
        drop 2
        let e ← sum n
        return (.notMember, e) :: (← comparisons n)
      else return []

def sum : Nat → Reader Expr
  | 0 => refuse
  | n + 1 => do sums n (← concatenation n)

def sums : Nat → Expr → Reader Expr
  | 0, _ => refuse
  | n + 1, left => do
    match sum? (← peek) with
    | some op =>
      drop 1
      sums n (.binary op left (← concatenation n))
    | none => return left

def concatenation : Nat → Reader Expr
  | 0 => refuse
  | n + 1 => do
    let e ← product n
    let rest ← concatenations n
    if rest.isEmpty then return e else return .concat (e :: rest)

def concatenations : Nat → Reader (List Expr)
  | 0 => refuse
  | n + 1 => do
    if ← takeSymbol "~" then
      let e ← product n
      return e :: (← concatenations n)
    else return []

def product : Nat → Reader Expr
  | 0 => refuse
  | n + 1 => do products n (← power n)

def products : Nat → Expr → Reader Expr
  | 0, _ => refuse
  | n + 1, left => do
    match product? (← peek) with
    | some op =>
      drop 1
      products n (.binary op left (← power n))
    | none => return left

def power : Nat → Reader Expr
  | 0 => refuse
  | n + 1 => do powers n (← unary n true)

def powers : Nat → Expr → Reader Expr
  | 0, _ => refuse
  | n + 1, left => do
    if ← takeSymbol "**" then powers n (.binary .power left (← unary n true)) else return left

/-- A sign binds less than fields, items and calls, but more than filters and tests. -/
def unary : Nat → Bool → Reader Expr
  | 0, _ => refuse
  | n + 1, withFilter => do
    let e ←
      if ← takeSymbol "-" then Expr.unary .negate <$> unary n false
      else if ← takeSymbol "+" then Expr.unary .plus <$> unary n false
      else do postfixes n (← primary n)
    if withFilter then filters n e else return e

def primary : Nat → Reader Expr
  | 0 => refuse
  | n + 1 => do
    match ← peek with
    | some (.name t) =>
      drop 1
      match constant? t with
      | some l => return .literal l
      | none => return .name t
    | some (.string t) =>
      drop 1
      return .literal (.text (t ++ (← strings n)))
    | some (.int i) =>
      drop 1
      return .literal (.int i)
    | some (.float x) =>
      drop 1
      return .literal (.float x)
    | some (.symbol s) =>
      if s = "(" then
        drop 1
        let e ← tuple n .full none true
        expectSymbol ")"
        return e
      else if s = "[" then
        drop 1
        return .list (← listItems n true)
      else if s = "\x7b" then
        drop 1
        return .dict (← dictEntries n true)
      else refuse
    | _ => refuse

def listItems : Nat → Bool → Reader (List Expr)
  | 0, _ => refuse
  | n + 1, isFirst => do
    if ← takeSymbol "]" then return []
    if !isFirst then expectSymbol ","
    if ← takeSymbol "]" then return []
    let e ← expression n
    return e :: (← listItems n false)

def dictEntries : Nat → Bool → Reader (List (Expr × Expr))
  | 0, _ => refuse
  | n + 1, isFirst => do
    if ← takeSymbol "\x7d" then return []
    if !isFirst then expectSymbol ","
    if ← takeSymbol "\x7d" then return []
    let k ← expression n
    expectSymbol ":"
    let v ← expression n
    return (k, v) :: (← dictEntries n false)

def postfixes : Nat → Expr → Reader Expr
  | 0, _ => refuse
  | n + 1, e => do
    if ← takeSymbol "." then
      match ← peek with
      | some (.name t) =>
        drop 1
        postfixes n (.field e t)
      | some (.int i) =>
        drop 1
        postfixes n (.item e (.literal (.int i)))
      | _ => refuse
    else if ← takeSymbol "[" then
      match ← subscripts n true with
      | [make] => postfixes n (make e)
      | [] => postfixes n (.item e (.tuple []))
      | makes =>
        -- Several subscripts are one tuple, in which a slice has no meaning.
        let items := makes.map fun make =>
          match make e with
          | .item _ i => i
          | other => other
        postfixes n (.item e (.tuple items))
    else if ← takeSymbol "(" then postfixes n (.call e (← operands n))
    else return e

def subscripts : Nat → Bool → Reader (List (Expr → Expr))
  | 0, _ => refuse
  | n + 1, isFirst => do
    if ← takeSymbol "]" then return []
    if !isFirst then expectSymbol ","
    let make ← subscript n
    return make :: (← subscripts n false)

def subscript : Nat → Reader (Expr → Expr)
  | 0 => refuse
  | n + 1 => do
    let start ← if isSymbol ":" (← peek) then pure none else some <$> expression n
    if ← takeSymbol ":" then
      let stop ← bound n
      let step ← if ← takeSymbol ":" then bound n else pure none
      return fun e => .slice e start stop step
    else
      match start with
      | some i => return fun e => .item e i
      | none => refuse

def bound : Nat → Reader (Option Expr)
  | 0 => refuse
  | n + 1 => do
    let next ← peek
    if isSymbol ":" next || isSymbol "]" next || isSymbol "," next then return none
    else some <$> expression n

def operands : Nat → Reader Operands
  | 0 => refuse
  | n + 1 => operandsFrom n true [] [] none none

def operandsFrom : Nat → Bool → List Expr → List (Text × Expr) → Option Expr → Option Expr →
    Reader Operands
  | 0, _, _, _, _, _ => refuse
  | n + 1, isFirst, values, named, rest, options => do
    if ← takeSymbol ")" then return .mk values named rest options
    if !isFirst then expectSymbol ","
    if ← takeSymbol ")" then return .mk values named rest options
    if ← takeSymbol "*" then
      if rest.isSome || options.isSome then refuse
      else operandsFrom n false values named (some (← expression n)) options
    else if ← takeSymbol "**" then
      if options.isSome then refuse
      else operandsFrom n false values named rest (some (← expression n))
    else
      match ← peek, isSymbol "=" (← peekSecond) with
      | some (.name t), true =>
        drop 2
        if options.isSome then refuse
        else operandsFrom n false values (named ++ [(t, ← expression n)]) rest options
      | _, _ =>
        if rest.isSome || options.isSome || !named.isEmpty then refuse
        else operandsFrom n false (values ++ [← expression n]) named rest options

def filters : Nat → Expr → Reader Expr
  | 0, _ => refuse
  | n + 1, e => do
    if ← takeSymbol "|" then
      let name ← dottedName n
      filters n (.filter (some e) name (← optionalOperands n))
    else if ← takeName "is" then
      let isNot ← takeName "not"
      let name ← dottedName n
      let arguments ←
        if ← takeSymbol "(" then operands n
        else if beginsOperand (← peek) then
          if isName "is" (← peek) then refuse
          else do
            let operand ← postfixes n (← primary n)
            pure (Operands.mk [operand] [] none none)
        else pure Operands.none
      let test := Expr.test e name arguments
      filters n (if isNot then .unary .not test else test)
    else if ← takeSymbol "(" then filters n (.call e (← operands n))
    else return e

def optionalOperands : Nat → Reader Operands
  | 0 => refuse
  | n + 1 => do if ← takeSymbol "(" then operands n else return Operands.none

/-- One expression, or a tuple if a comma follows it. The empty tuple has to stand in brackets. -/
def tuple : Nat → Level → Option String → Bool → Reader Expr
  | 0, _, _, _ => refuse
  | n + 1, level, word, bracketed => do
    if endsTuple word (← peek) then
      if bracketed then return .tuple [] else refuse
    else
      let e ← tupleItem n level
      if isSymbol "," (← peek) then return .tuple (e :: (← tupleItems n level word)) else return e

def tupleItems : Nat → Level → Option String → Reader (List Expr)
  | 0, _, _ => refuse
  | n + 1, level, word => do
    if ← takeSymbol "," then
      if endsTuple word (← peek) then return []
      else
        let e ← tupleItem n level
        return e :: (← tupleItems n level word)
    else return []

def tupleItem : Nat → Level → Reader Expr
  | 0, _ => refuse
  | n + 1, level =>
    match level with
    | .primary => primary n
    | .unconditional => disjunction n
    | .full => expression n

end

def pattern? : Nat → Expr → Option Pattern
  | 0, _ => none
  | n + 1, e =>
    match e with
    | .name t => some (.name t)
    | .tuple items => (items.mapM (pattern? n)).map .tuple
    | _ => none

def target (n : Nat) (word : Option String) (withField : Bool) : Reader Pattern := do
  if withField && isSymbol "." (← peekSecond) then
    let name ← anyName
    drop 1
    return .field name (← anyName)
  else
    match pattern? n (← tuple n .primary word false) with
    | some p => return p
    | none => refuse

def variableName : Reader Text := do
  let t ← anyName
  if (constant? t).isSome then refuse else return t

/-- The parameters of a block up to the closing bracket. None without a default may stand behind one
with a default. -/
def parameters : Nat → List (Text × Option Expr) → Reader (List (Text × Option Expr))
  | 0, _ => refuse
  | n + 1, before => do
    if ← takeSymbol ")" then return before
    if !before.isEmpty then expectSymbol ","
    let name ← variableName
    if ← takeSymbol "=" then parameters n (before ++ [(name, some (← expression n))])
    else if before.any fun p => p.2.isSome then refuse
    else parameters n (before ++ [(name, none)])

/-- The filter of a set block, applied to what the block gives. -/
def blockFilter (n : Nat) : Reader (Option Expr) := do
  if ← takeSymbol "|" then
    let name ← dottedName n
    let first := Expr.filter none name (← optionalOperands n)
    blockFilters n first
  else return none
where
  blockFilters : Nat → Expr → Reader (Option Expr)
    | 0, _ => refuse
    | n + 1, e => do
      if ← takeSymbol "|" then
        let name ← dottedName n
        blockFilters n (.filter (some e) name (← optionalOperands n))
      else return some e

mutual

/-- Statements up to the end, or up to a tag with one of the words, which is left to be read. -/
def statements : Nat → List String → Reader (List Stmt)
  | 0, _ => refuse
  | n + 1, words => do
    match ← peek with
    | none => if words.isEmpty then return [] else refuse
    | some (.data t) =>
      drop 1
      return .data t :: (← statements n words)
    | some .openOutput =>
      drop 1
      let e ← tuple n .full none false
      closeOutput
      return .output e :: (← statements n words)
    | some .openBlock =>
      drop 1
      if words.any (isName · (← peek)) then return []
      else
        let s ← statement n
        closeBlock
        return s :: (← statements n words)
    | some _ => refuse

def body : Nat → List String → Reader (List Stmt)
  | 0, _ => refuse
  | n + 1, words => do
    let _ ← takeSymbol ":"
    closeBlock
    statements n words

def statement : Nat → Reader Stmt
  | 0 => refuse
  | n + 1 => do
    if ← takeName "if" then
      let (branches, other) ← branches n
      return .conditional branches other
    else if ← takeName "for" then
      let t ← target n (some "in") false
      expectName "in"
      let items ← tuple n .unconditional (some "recursive") false
      let condition ← if ← takeName "if" then some <$> expression n else pure none
      let _ ← takeName "recursive"
      let inside ← body n ["endfor", "else"]
      if ← takeName "endfor" then return .loop t items condition inside []
      else
        expectName "else"
        let other ← body n ["endfor"]
        expectName "endfor"
        return .loop t items condition inside other
    else if ← takeName "set" then
      let t ← target n none true
      if ← takeSymbol "=" then return .assign t (← tuple n .full none false)
      else
        let filter ← blockFilter n
        let inside ← body n ["endset"]
        expectName "endset"
        return .assignBlock t filter inside
    else if ← takeName "call" then
      let ps ← if ← takeSymbol "(" then parameters n [] else pure []
      match ← expression n with
      | .call f arguments =>
        let inside ← body n ["endcall"]
        expectName "endcall"
        return .callBlock ps (.call f arguments) inside
      | _ => refuse
    else if ← takeName "include" then
      let source ← expression n
      let ignoreMissing := isName "ignore" (← peek) && isName "missing" (← peekSecond)
      if ignoreMissing then drop 2
      let isContext := isName "context" (← peekSecond)
      if isName "without" (← peek) && isContext then
        drop 2
        return .insert source ignoreMissing false
      else
        if isName "with" (← peek) && isContext then drop 2
        return .insert source ignoreMissing true
    else refuse

def branches : Nat → Reader (List (Expr × List Stmt) × List Stmt)
  | 0 => refuse
  | n + 1 => do
    let condition ← tuple n .unconditional none false
    let inside ← body n ["elif", "else", "endif"]
    if ← takeName "elif" then
      let (others, other) ← branches n
      return ((condition, inside) :: others, other)
    else if ← takeName "else" then
      let other ← body n ["endif"]
      expectName "endif"
      return ([(condition, inside)], other)
    else
      expectName "endif"
      return ([(condition, inside)], [])

end

/-- Reads a template. The count of its tokens bounds how deep the readers go. -/
def parse? (source : Text) : Option (List Stmt) := do
  let tokens ← tokens? source
  let (stmts, rest) ← statements (32 * tokens.length + 64) [] tokens
  if rest.isEmpty then some stmts else none

end Stencil.Template

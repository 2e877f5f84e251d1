import Stencil.Template.Filter
import Stencil.Template.Scope

namespace Stencil.Template

structure Evaluated where
  values : List Value
  named : List (Text × Value)

def toArguments (a : Evaluated) (block : Option Block) : Helper.Arguments :=
  ⟨a.values, a.named, block⟩

def binaryOf : Binary → Value → Value → Except Fault Value
  | .add => Value.add
  | .subtract => Value.subtract
  | .multiply => Value.multiply
  | .divide => Value.divide
  | .floorDivide => Value.floorDivide
  | .modulo => Value.modulo
  | .power => Value.power

def related (r : Relation) (v w : Value) : Except Fault Bool :=
  match r with
  | .equal => .ok (v.same w)
  | .unequal => .ok (!v.same w)
  | .less => (v.order? w).map (· == some .lt)
  | .lessEqual => (v.order? w).map fun o => o == some .lt || o == some .eq
  | .greater => (v.order? w).map (· == some .gt)
  | .greaterEqual => (v.order? w).map fun o => o == some .gt || o == some .eq
  | .member => v.isMember w
  | .notMember => (v.isMember w).map (!·)

def valueOf (sc : Scope) (name : Text) : Value :=
  match sc.get? name with
  | some v => v
  | none => if (Helper.find? name).isSome then .function name else .undefined

def callValue (e : Surroundings) (sc : Scope) (f : Value) (a : Helper.Arguments) : Act Value :=
  match f with
  | .function name =>
    match Helper.find? name with
    | some h => e.call sc.data h a
    | none => Act.fail .undefined
  | .method v name =>
    match a.block with
    | none => callMethod v name a.values a.named
    | some _ => Act.fail .wrongType
  | .undefined => Act.fail .undefined
  | _ => Act.fail .wrongType

/-- The entries of a mapping literal; the last of several equal keys gives the value. -/
def dictOf (entries : List (Value × Value)) : Act Value := do
  let es ← entries.mapM fun (k, v) => do
    match ← keyOf k with
    | some k => return (k, v)
    | none => Act.fail .wrongType
  return .dict (Entries.ofList es)

def namedValues (v : Value) : Act (List (Text × Value)) := do
  match ← Act.look v with
  | .dict es =>
    es.mapM fun (k, w) => do
      match k with
      | .text t => return (t, w)
      | _ => Act.fail .wrongType
  | _ => Act.fail .wrongType

/-- The names that are looked for, one after the other, and whether there may be several. -/
def sourceNames (v : Value) : Act (List Value × Bool) := do
  match ← Act.look v with
  | .text t => return ([.text t], false)
  | .markup t => return ([.text t], false)
  | .undefined => Act.fail .undefined
  | looked =>
    if looked.truthy then return (← Act.ofExcept looked.iterate, true) else return ([], true)

def findPartial (e : Surroundings) (names : List Value) : Option Text :=
  names.findSome? fun name => name.asText?.bind fun t => e.partials.lookup t

def loopInfo (items : List Value) (i : Nat) : Value :=
  let n := items.length
  let fields : List (String × Value) :=
    [("index", .int (i + 1)), ("index0", .int i), ("first", .bool (i = 0)),
      ("last", .bool (i + 1 = n)), ("length", .int n), ("revindex", .int (n - i)),
      ("revindex0", .int (n - i - 1)), ("depth", .int 1), ("depth0", .int 0),
      ("previtem", if i = 0 then .undefined else (items[i - 1]?).getD .undefined),
      ("nextitem", (items[i + 1]?).getD .undefined)]
  .object (fields.map fun (k, v) => (Key.text k.toList, v))

/-- The values of a block's parameters. Further values are refused, unless the block asks for them. -/
def meetParameters (body : List Stmt) (parameters : List (Text × Option Expr)) (items : List Value) :
    Act (List (Text × Option Expr × Option Value) × Bindings) := do
  let met := parameters.zipIdx.map fun ((name, default), i) => (name, default, items[i]?)
  let further := items.drop parameters.length
  let extra : Bindings :=
    (if mentions "varargs" body then [("varargs".toList, .tuple further)] else []) ++
      (if mentions "kwargs" body then [("kwargs".toList, .dict [])] else []) ++
      (if mentions "caller" body then [("caller".toList, .undefined)] else [])
  if !further.isEmpty && !mentions "varargs" body then Act.fail .wrongType
  return (met, extra)

mutual

def eval (e : Surroundings) : Nat → Scope → Expr → Act Value
  | 0, _, _ => Act.fail .recursion
  | n + 1, sc, expr => do
    match expr with
    | .literal l => return l.value
    | .name name => return valueOf sc name
    | .list items => return .list (← items.mapM (eval e n sc))
    | .tuple items => return .tuple (← items.mapM (eval e n sc))
    | .dict entries =>
      dictOf (← entries.mapM fun (k, v) => do return (← eval e n sc k, ← eval e n sc v))
    | .field v name => fieldOf (← eval e n sc v) name
    | .item v i =>
      let v ← eval e n sc v
      itemOf v (← eval e n sc i)
    | .slice v start stop step =>
      let v ← eval e n sc v
      let start ← evalOr e n sc start
      let stop ← evalOr e n sc stop
      partOf v start stop (← evalOr e n sc step)
    | .call f arguments =>
      let f ← eval e n sc f
      let a ← evalOperands e n sc arguments
      callValue e sc f (toArguments a none)
    | .filter v name arguments =>
      let v ← evalOr e n sc v
      let a ← evalOperands e n sc arguments
      applyFilter e sc.data name ⟨v :: a.values, a.named, none⟩
    | .test v name arguments =>
      let v ← eval e n sc v
      let a ← evalOperands e n sc arguments
      if !a.named.isEmpty then Act.fail .wrongType
      return .bool (← Act.ofExcept (applyTest name (← Act.resolve v) (← a.values.mapM Act.resolve)))
    | .unary .not v => return .bool (!(← Act.truthy (← eval e n sc v)))
    | .unary .negate v => Act.ofExcept (Value.negate (← eval e n sc v))
    | .unary .plus v => Act.ofExcept (Value.plus (← eval e n sc v))
    | .binary op l r =>
      let l ← eval e n sc l
      let r ← eval e n sc r
      Act.ofExcept (binaryOf op (← Act.look l) (← Act.look r))
    | .both l r =>
      let l ← eval e n sc l
      if ← Act.truthy l then eval e n sc r else return l
    | .either l r =>
      let l ← eval e n sc l
      if ← Act.truthy l then return l else eval e n sc r
    | .compare v rest => compareAll e n sc (← eval e n sc v) rest
    | .concat items =>
      return joined e.autoescape (.text []) (← items.mapM fun i => do Act.resolve (← eval e n sc i))
    | .conditional c v other =>
      if ← Act.truthy (← eval e n sc c) then eval e n sc v
      else
        match other with
        | some w => eval e n sc w
        | none => return .undefined

def evalOr (e : Surroundings) : Nat → Scope → Option Expr → Act Value
  | 0, _, _ => Act.fail .recursion
  | _, _, none => return .null
  | n + 1, sc, some expr => eval e n sc expr

/-- A chain of relations, which ends with the first that does not hold. -/
def compareAll (e : Surroundings) : Nat → Scope → Value → List (Relation × Expr) → Act Value
  | 0, _, _, _ => Act.fail .recursion
  | n + 1, sc, v, rest => do
    match rest with
    | [] => return .bool true
    | (r, expr) :: rest =>
      let w ← eval e n sc expr
      if ← Act.ofExcept (related r (← Act.resolve v) (← Act.resolve w)) then
        compareAll e n sc w rest
      else return .bool false

def evalOperands (e : Surroundings) : Nat → Scope → Operands → Act Evaluated
  | 0, _, _ => Act.fail .recursion
  | n + 1, sc, .mk values named rest options => do
    let values ← values.mapM (eval e n sc)
    let named ← named.mapM fun (k, v) => do return (k, ← eval e n sc v)
    let further ←
      match rest with
      | none => pure []
      | some v => do Act.ofExcept (← Act.look (← eval e n sc v)).iterate
    let moreNamed ←
      match options with
      | none => pure []
      | some v => do namedValues (← eval e n sc v)
    return ⟨values ++ further, named ++ moreNamed⟩

end

/-- The names that a loop gives to an item, unless its condition leaves the item out. -/
def passing (e : Surroundings) (n : Nat) (sc : Scope) (target : Pattern) (condition : Option Expr)
    (item : Value) : Act (Option Bindings) := do
  let names ← target.bind item
  match condition with
  | none => return some names
  | some c =>
    if ← Act.truthy (← eval e n (sc.enter ⟨names, [], false⟩) c) then return some names
    else return none

/-- The items of a loop. What a loop says about itself counts the items that pass, which are found out
first. -/
def loopItems (e : Surroundings) (n : Nat) (sc : Scope) (target : Pattern) (condition : Option Expr)
    (hasInfo : Bool) (items : List Value) : Act (List Value) :=
  if hasInfo && condition.isSome then
    items.filterM fun item => do return (← passing e n sc target condition item).isSome
  else pure items

/-- The filters of a set block, the first of which has nothing in front of it. -/
def fillFilter (l : Literal) : Nat → Expr → Expr
  | 0, e => e
  | n + 1, e =>
    match e with
    | .filter none name a => .filter (some (.literal l)) name a
    | .filter (some inner) name a => .filter (some (fillFilter l n inner)) name a
    | e => e

def loopTexts (e : Surroundings) (n : Nat) (sc : Scope) (target : Pattern) (condition : Option Expr)
    (hasInfo : Bool) (inside : Scope → Act Text) (items : List Value) : Act (List Text) :=
  items.zipIdx.filterMapM fun (item, i) => do
    match ← passing e n sc target condition item with
    | none => return none
    | some names =>
      let own := if hasInfo then [("loop".toList, loopInfo items i)] else []
      return some (← inside (sc.enter ⟨names ++ own, [], true⟩))

/-- The value of a set block with a text, which is passed through the block's filters. -/
def blockValue (e : Surroundings) (n : Nat) (sc : Scope) (t : Text) (filter : Option Expr) :
    Act Value := do
  let own : Literal := if e.autoescape then .markup t else .text t
  match filter with
  | none => return own.value
  | some f =>
    let w ← Act.resolve (← eval e n sc (fillFilter own depthLimit f))
    return if e.autoescape then .markup w.display else w

/-- Calls a value with a block. It has to give a text. -/
def callText (e : Surroundings) (n : Nat) (sc : Scope) (call : Expr) (block : Block) : Act Text := do
  match call with
  | .call f arguments =>
    let f ← eval e n sc f
    let a ← evalOperands e n sc arguments
    match (← callValue e sc f (toArguments a (some block))).asText? with
    | some t => return t
    | none => Act.fail .wrongType
  | _ => Act.fail .wrongType

def partialBody (e : Surroundings) (n : Nat) (sc : Scope) (source : Expr) (ignoreMissing : Bool) :
    Act (Option (List Stmt)) := do
  let (names, several) ← sourceNames (← eval e n sc source)
  match findPartial e names with
  | none =>
    if ignoreMissing then return none
    else Act.fail (if several then .templatesNotFound else .templateNotFound)
  | some text =>
    match compile text with
    | .error f => Act.fail f
    | .ok body => return some body

mutual

def exec (e : Surroundings) : Nat → Scope → List Stmt → Act (Text × Scope)
  | 0, _, _ => Act.fail .recursion
  | n + 1, sc, body => do
    let (out, sc) ← body.foldlM (fun ((out, sc) : List Text × Scope) s => do
      let (t, sc) ← execStmt e n sc s
      return (t :: out, sc)) ([], sc)
    return (out.reverse.flatten, sc)

def execStmt (e : Surroundings) : Nat → Scope → Stmt → Act (Text × Scope)
  | 0, _, _ => Act.fail .recursion
  | n + 1, sc, s => do
    match s with
    | .data t => return (t, sc)
    | .output expr =>
      return (written e.autoescape (← Act.resolve (← eval e n sc expr)), sc)
    | .conditional branches other => execBranches e n sc branches other
    | .loop target items condition body other =>
      let items ← Act.ofExcept (← Act.look (← eval e n sc items)).iterate
      let hasInfo := mentions "loop" body
      let items ← loopItems e n sc target condition hasInfo items
      let texts ← loopTexts e n sc target (if hasInfo then none else condition) hasInfo
        (fun sc => Prod.fst <$> exec e n sc body) items
      if texts.isEmpty then return (← Prod.fst <$> exec e n (sc.enter ⟨[], [], false⟩) other, sc)
      else return (texts.flatten, sc)
    | .assign target expr =>
      let names ← target.bind (← eval e n sc expr)
      return ([], sc.assign names)
    | .assignBlock target filter body =>
      let t ← Prod.fst <$> exec e n (sc.enter ⟨[], [], false⟩) body
      let names ← target.bind (← blockValue e n sc t filter)
      return ([], sc.assign names)
    | .callBlock parameters call body =>
      return (← callText e n sc call (execBlock e n sc parameters body), sc)
    | .insert source ignoreMissing withContext =>
      match ← partialBody e n sc source ignoreMissing with
      | none => return ([], sc)
      | some body =>
        let given := if withContext then sc.visible else []
        return (← Prod.fst <$> exec e n { given := given } body, sc)

def execBranches (e : Surroundings) : Nat → Scope → List (Expr × List Stmt) → List Stmt →
    Act (Text × Scope)
  | 0, _, _, _ => Act.fail .recursion
  | n + 1, sc, branches, other => do
    match branches with
    | [] => exec e n sc other
    | (c, body) :: branches =>
      if ← Act.truthy (← eval e n sc c) then exec e n sc body
      else execBranches e n sc branches other

def execBlock (e : Surroundings) : Nat → Scope → List (Text × Option Expr) → List Stmt → Block
  | 0, _, _, _, _ => Act.fail .recursion
  | n + 1, sc, parameters, body, items => do
    let (met, extra) ← meetParameters body parameters items
    let names ← met.foldlM (fun (names : Bindings) (name, default, given) => do
      let v ←
        match given, default with
        | some v, _ => pure v
        | none, some d => eval e n (sc.enter ⟨names, [], false⟩) d
        | none, none => pure .undefined
      return (name, ← Act.share v) :: names) extra
    Prod.fst <$> exec e n (sc.enter ⟨names, [], false⟩) body

end

/-- How deep tags, expressions and included templates may nest. -/
def nestingLimit : Nat := 3000

/-- The built-in template language. Generations are told of any `Renderer`, and run with this one. -/
def render (e : Surroundings) (source : Text) (given : Bindings) : Act Text := do
  match compile source with
  | .error f => Act.fail f
  | .ok body => return (← exec e nestingLimit { given := given } body).1

end Stencil.Template

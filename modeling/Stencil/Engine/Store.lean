import Stencil.Value.Basic

namespace Stencil

/-- What a reference stands for: a list or mapping that templates can change. It holds others by
reference only, so that a change is seen wherever the same one is held. -/
inductive Cell
  | list (items : List Value)
  | dict (entries : Entries)

def Cell.value : Cell → Value
  | list vs => .list vs
  | dict es => .dict es

structure Store where
  cells : Array Cell := #[]

namespace Store

def add (s : Store) (c : Cell) : Value × Store :=
  (.ref s.cells.size, ⟨s.cells.push c⟩)

mutual

def share : Value → Store → Value × Store
  | .list vs, s =>
    let (vs, s) := shareItems vs s
    s.add (.list vs)
  | .dict es, s =>
    let (es, s) := shareEntries es s
    s.add (.dict es)
  | .tuple vs, s =>
    let (vs, s) := shareItems vs s
    (.tuple vs, s)
  | .view vs, s =>
    let (vs, s) := shareItems vs s
    (.view vs, s)
  | .object es, s =>
    let (es, s) := shareEntries es s
    (.object es, s)
  | v, s => (v, s)

def shareItems : List Value → Store → List Value × Store
  | [], s => ([], s)
  | v :: vs, s =>
    let (v, s) := share v s
    let (vs, s) := shareItems vs s
    (v :: vs, s)

def shareEntries : List (Key × Value) → Store → List (Key × Value) × Store
  | [], s => ([], s)
  | (k, v) :: es, s =>
    let (v, s) := share v s
    let (es, s) := shareEntries es s
    ((k, v) :: es, s)

end

/-- The list or mapping that a reference stands for, holding others by reference; any other value is
itself. -/
def look (s : Store) : Value → Value
  | .ref c => (s.cells[c]?.map Cell.value).getD (.ref c)
  | v => v

mutual

/-- Puts values into the places of references. A method keeps its receiver. -/
def fill (follow : Nat → Value) : Value → Value
  | .ref c => follow c
  | .list vs => .list (fillItems follow vs)
  | .tuple vs => .tuple (fillItems follow vs)
  | .view vs => .view (fillItems follow vs)
  | .dict es => .dict (fillEntries follow es)
  | .object es => .object (fillEntries follow es)
  | v => v

def fillItems (follow : Nat → Value) : List Value → List Value
  | [] => []
  | v :: vs => fill follow v :: fillItems follow vs

def fillEntries (follow : Nat → Value) : List (Key × Value) → List (Key × Value)
  | [] => []
  | (k, v) :: es => (k, fill follow v) :: fillEntries follow es

end

/-- What a reference stands for without further references, as far as a number of them lead. A
reference to something that it is itself inside of stays. -/
def contents (s : Store) : Nat → List Nat → Nat → Value
  | 0, _, c => .ref c
  | n + 1, path, c =>
    if path.contains c then .ref c
    else
      match s.cells[c]? with
      | some cell => fill (contents s n (c :: path)) cell.value
      | none => .ref c

/-- The value without references. No way through the store goes on longer than it has cells. -/
def resolve (s : Store) (v : Value) : Value :=
  fill (contents s s.cells.size []) v

def write (s : Store) (cell : Nat) (c : Cell) : Store :=
  ⟨s.cells.setIfInBounds cell c⟩

end Store

mutual

/-- The cells that a value holds. A method keeps its receiver to itself. -/
def Value.members : Value → List Nat
  | .ref c => [c]
  | .list vs => Value.membersOfItems vs
  | .tuple vs => Value.membersOfItems vs
  | .view vs => Value.membersOfItems vs
  | .dict es => Value.membersOfEntries es
  | .object es => Value.membersOfEntries es
  | _ => []

def Value.membersOfItems : List Value → List Nat
  | [] => []
  | v :: vs => v.members ++ Value.membersOfItems vs

def Value.membersOfEntries : List (Key × Value) → List Nat
  | [] => []
  | (_, v) :: es => v.members ++ Value.membersOfEntries es

end

def Cell.fill (follow : Nat → Value) : Cell → Cell
  | list vs => .list (Store.fillItems follow vs)
  | dict es => .dict (Store.fillEntries follow es)

/-- A value together with the lists and mappings that it holds. It refers to them by their numbers
among them, and so do they to each other. -/
structure Excerpt where
  value : Value
  cells : List Cell

namespace Store

def collect (found cs : List Nat) : List Nat :=
  cs.foldl (fun found c => found.insert c) found

def membersAt (s : Store) (c : Nat) : List Nat :=
  ((s.cells[c]?).map fun cell => cell.value.members).getD []

/-- The cells that some cells hold, directly or through others, as far as a number of steps leads. -/
def reach (s : Store) : Nat → List Nat → List Nat
  | 0, found => found
  | n + 1, found =>
    let more := collect found (found.flatMap s.membersAt)
    if more.length = found.length then found else reach s n more

/-- A value with all that it holds. Each step but the last finds a cell, so the steps suffice. -/
def excerpt (s : Store) (v : Value) : Excerpt :=
  let part := s.reach s.cells.size (collect [] v.members)
  let number (c : Nat) : Value := .ref (part.idxOf c)
  ⟨fill number v, part.map fun c => ((s.cells[c]?).getD (.list [])).fill number⟩

def paste (s : Store) (x : Excerpt) : Value × Store :=
  let place (i : Nat) : Value := .ref (s.cells.size + i)
  share (fill place x.value) ⟨s.cells ++ (x.cells.map (Cell.fill place)).toArray⟩

end Store

end Stencil

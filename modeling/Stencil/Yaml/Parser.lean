import Stencil.Yaml.Resolution
import Stencil.Yaml.Token

namespace Stencil.Yaml

def malformed {α : Type} : Except Flaw α :=
  .error .malformed

def isLeftOut (stops : List Token) : List Token → Bool
  | [] => false
  | t :: _ => stops.contains t

def entry (k v : Value) : Except Flaw (Key × Value) :=
  match k.asKey? with
  | some k => .ok (k, v)
  | none => malformed

mutual

/-- Reads a value. Blocks may begin outside of brackets, and a list as the value of a key needs no
indentation. -/
def node (inBlock unindented : Bool) : Nat → List Token → Except Flaw (Value × List Token)
  | 0, _ => malformed
  | n + 1, ts => do
    match ts with
    | .scalar t plain :: ts => return (← if plain then resolve t else pure (.text t), ts)
    | .openList :: ts =>
      let (vs, ts) ← flowItems true n ts
      return (.list vs, ts)
    | .openMapping :: ts =>
      let (es, ts) ← flowEntries true n ts
      return (.dict (Entries.ofList es), ts)
    | .item :: _ =>
      if !unindented then malformed
      else do
        let (vs, ts) ← items [.item, .key, .value, .blockEnd] n ts
        return (.list vs, ts)
    | .listStart :: ts =>
      if !inBlock then malformed
      else do
        let (vs, ts) ← items [.item, .blockEnd] n ts
        match ts with
        | .blockEnd :: ts => return (.list vs, ts)
        | _ => malformed
    | .mappingStart :: ts =>
      if !inBlock then malformed
      else do
        let (es, ts) ← entries n ts
        return (.dict (Entries.ofList es), ts)
    | _ => malformed

def nodeBefore (stops : List Token) (inBlock unindented : Bool) : Nat → List Token → Except Flaw (Value × List Token)
  | 0, _ => malformed
  | n + 1, ts => if isLeftOut stops ts then .ok (.null, ts) else node inBlock unindented n ts

def items (stops : List Token) : Nat → List Token → Except Flaw (List Value × List Token)
  | 0, _ => malformed
  | n + 1, ts => do
    match ts with
    | .item :: ts =>
      let (v, ts) ← nodeBefore stops true false n ts
      let (vs, ts) ← items stops n ts
      return (v :: vs, ts)
    | _ => return ([], ts)

def valueBefore (stops : List Token) (inBlock : Bool) : Nat → List Token → Except Flaw (Value × List Token)
  | 0, _ => malformed
  | n + 1, ts =>
    match ts with
    | .value :: ts => nodeBefore stops inBlock inBlock n ts
    | _ => .ok (.null, ts)

def entries : Nat → List Token → Except Flaw (Entries × List Token)
  | 0, _ => malformed
  | n + 1, ts => do
    match ts with
    | .key :: ts =>
      let (k, ts) ← nodeBefore [.key, .value, .blockEnd] true true n ts
      let (v, ts) ← valueBefore [.key, .value, .blockEnd] true n ts
      let e ← entry k v
      let (es, ts) ← entries n ts
      return (e :: es, ts)
    | .blockEnd :: ts => return ([], ts)
    | _ => malformed

/-- Reads the items of a list up to its closing bracket. An item can be a mapping of one entry. -/
def flowItems (first : Bool) : Nat → List Token → Except Flaw (List Value × List Token)
  | 0, _ => malformed
  | n + 1, ts => do
    match ts with
    | .closeList :: ts => return ([], ts)
    | _ =>
      let ts ←
        match first, ts with
        | true, _ => pure ts
        | false, .comma :: ts => pure ts
        | false, _ => malformed
      match ts with
      | .closeList :: ts => return ([], ts)
      | .key :: ts =>
        let (k, ts) ← nodeBefore [.value, .comma, .closeList] false false n ts
        let (v, ts) ← valueBefore [.comma, .closeList] false n ts
        let e ← entry k v
        let (vs, ts) ← flowItems false n ts
        return (.dict [e] :: vs, ts)
      | _ =>
        let (v, ts) ← node false false n ts
        let (vs, ts) ← flowItems false n ts
        return (v :: vs, ts)

def flowEntries (first : Bool) : Nat → List Token → Except Flaw (Entries × List Token)
  | 0, _ => malformed
  | n + 1, ts => do
    match ts with
    | .closeMapping :: ts => return ([], ts)
    | _ =>
      let ts ←
        match first, ts with
        | true, _ => pure ts
        | false, .comma :: ts => pure ts
        | false, _ => malformed
      match ts with
      | .closeMapping :: ts => return ([], ts)
      | .key :: ts =>
        let (k, ts) ← nodeBefore [.value, .comma, .closeMapping] false false n ts
        let (v, ts) ← valueBefore [.comma, .closeMapping] false n ts
        let e ← entry k v
        let (es, ts) ← flowEntries false n ts
        return (e :: es, ts)
      | _ =>
        let (k, ts) ← node false false n ts
        let e ← entry k .null
        let (es, ts) ← flowEntries false n ts
        return (e :: es, ts)

end

def document (ts : List Token) : Except Flaw (Value × List Token) :=
  let n := 3 * ts.length + 3
  match ts with
  | [] => .ok (.null, [])
  | .documentStart :: ts =>
    match ts with
    | [] | .documentStart :: _ | .documentEnd :: _ => .ok (.null, ts)
    | _ => node true false n ts
  | _ => node true false n ts

/-- Reads a whole text, which holds at most one document; an empty one stands for null. -/
def parse (t : Text) : Except Flaw Value := do
  match tokens? t with
  | none => malformed
  | some ts =>
    let (v, rest) ← document ts
    if rest.all (· = .documentEnd) then return v else malformed

end Stencil.Yaml

import Mathlib.Data.List.Nodup
import Stencil.Proofs.Helper.Forms
import Stencil.Proofs.Helper.Switches
import Stencil.Proofs.Text.Ending

namespace Stencil

section Lists

variable {α : Type} [BEq α] [LawfulBEq α]

theorem nodup_eraseDups (xs : List α) : xs.eraseDups.Nodup := by
  cases xs with
  | nil => simp
  | cons x xs =>
    rw [List.eraseDups_cons, List.nodup_cons]
    constructor
    · rw [List.mem_eraseDups]
      simp
    · exact nodup_eraseDups (xs.filter fun y => !y == x)
termination_by xs.length
decreasing_by
  exact Nat.lt_succ_of_le (List.length_filter_le _ _)

/-- The first occurrences among some of the entries are those of the entries that are left. -/
theorem filter_eraseDups (p : α → Bool) (xs : List α) :
    xs.eraseDups.filter p = (xs.filter p).eraseDups := by
  cases xs with
  | nil => rfl
  | cons x xs =>
    have hrest := filter_eraseDups p (xs.filter fun y => !y == x)
    have hswap : (xs.filter fun y => !y == x).filter p = (xs.filter p).filter fun y => !y == x := by
      rw [List.filter_filter, List.filter_filter]
      simp only [Bool.and_comm]
    rw [List.eraseDups_cons, List.filter_cons, List.filter_cons, hrest, hswap]
    by_cases hx : p x = true
    · rw [if_pos hx, if_pos hx, List.eraseDups_cons]
    · have hself : (xs.filter p).filter (fun y => !y == x) = xs.filter p := by
        apply List.filter_eq_self.mpr
        intro y hy
        have hpy := (List.mem_filter.mp hy).2
        have hne : y ≠ x := by
          rintro rfl
          exact hx hpy
        simpa using hne
      rw [if_neg hx, if_neg hx, hself]
termination_by xs.length
decreasing_by
  exact Nat.lt_succ_of_le (List.length_filter_le _ _)

end Lists

namespace Resolver

open Text Reference Helper

variable {context v : Value} {d name : Text}

/-- The resolver that asks for the transfer types of a document and for nothing else. -/
def ofDocument (context : Value) : Resolver where
  transferTypes := transferTypesOf context

theorem make_ofDocument (context : Value) : make context false [] = .ok (ofDocument context) := rfl

theorem ne_nil_of_mem_transferTypesOf (h : d ∈ transferTypesOf context) : d ≠ [] := by
  unfold transferTypesOf at h
  split at h
  next types _ =>
    obtain ⟨entity, -, hentity⟩ := List.mem_filterMap.mp h
    split at hentity
    next type name _ _ =>
      split at hentity
      next hname =>
        rw [Bool.and_eq_true, Bool.not_eq_true'] at hname
        cases Option.some.inj hentity
        have hlength := length_le_lowerFrom false name
        have hpos := List.length_pos_iff.mpr (List.isEmpty_eq_false_iff.mp hname.2)
        exact List.length_pos_iff.mp (Nat.lt_of_lt_of_le hpos hlength)
      next => cases hentity
    next => cases hentity
  next => cases h

theorem accepts_ofDocument_iff :
    (ofDocument context).accepts name = true ↔
      lower name ∈ transferTypesOf context ∧ lower name ∉ builtinTypes ∧ name ∉ reserved := by
  have hempty : lower name ∈ transferTypesOf context → name ≠ [] := by
    rintro hmem rfl
    exact ne_nil_of_mem_transferTypesOf hmem rfl
  simp only [accepts, ofDocument, isTransferType, Reference.isBuiltin, List.contains_nil,
    Bool.false_or]
  by_cases hmem : lower name ∈ transferTypesOf context
  · simp [hmem, hempty hmem]
  · simp [hmem]

/-- The spellings of a name among the references, in the order of the search. -/
def spellings (d : Text) (v : Value) : List Text :=
  ((walk v).filter fun name => lower name = d).eraseDups

theorem mem_spellings_iff : name ∈ spellings d v ↔ hasReference name v = true ∧ lower name = d := by
  rw [spellings, List.mem_eraseDups, List.mem_filter, hasReference_eq_contains,
    List.contains_iff_mem, decide_eq_true_eq]

/-- Of a transfer type that is no builtin one every spelling is found but those that are reserved. -/
theorem filter_resolve_eq_spellings (hd : d ∈ transferTypesOf context) (hfree : d ∉ builtinTypes)
    (v : Value) : ((ofDocument context).resolve v).filter (fun name => lower name = d) =
      (spellings d v).filter fun name => !reserved.contains name := by
  rw [resolve_eq, filter_eraseDups, List.filter_filter, spellings, filter_eraseDups,
    List.filter_filter]
  congr 1
  apply List.filter_congr
  intro name _
  by_cases hlower : lower name = d
  · subst hlower
    rw [Bool.eq_iff_iff, Bool.and_eq_true, Bool.and_eq_true, accepts_ofDocument_iff]
    simp [hd, hfree]
  · simp [hlower]

theorem mem_resolve_ofDocument_iff :
    name ∈ (ofDocument context).resolve v ↔ hasReference name v = true ∧
      lower name ∈ transferTypesOf context ∧ lower name ∉ builtinTypes ∧ name ∉ reserved := by
  rw [resolve_eq, List.mem_eraseDups, List.mem_filter, accepts_ofDocument_iff,
    hasReference_eq_contains, List.contains_iff_mem]

/-- The helper renders its block for each name that the resolver finds. -/
theorem run_eachTypeReference {e : Engine} {s : Session} {block : Block}
    {out : List Value → Session → Text} (makes : block.Makes out) (x data : Value) :
    (callNamed e data "eachTypeReference" ⟨[x], [], some block⟩).run s =
      (.ok (.markup (((ofDocument (s.store.resolve e.context)).resolve (s.store.resolve x)).map
        fun name => out [nameItem name] s).flatten), s) := by
  have hcall : (callNamed e data "eachTypeReference" ⟨[x], [], some block⟩).run s =
      (do
        let found ← (discover (ofDocument (s.store.resolve e.context)).accepts (report block)
          (s.store.resolve x) []).run []
        return Value.markup found.2.flatten : Act Value).run s := rfl
  rw [hcall, Act.run_bind_ok _ (run_discover_report makes _ _ s), Act.run_pure]

theorem pairwise_lower_iff (context v : Value) :
    ((ofDocument context).resolve v).Pairwise (fun a b => lower a ≠ lower b) ↔
      ∀ d ∈ transferTypesOf context, d ∉ builtinTypes → ∀ a ∈ spellings d v, ∀ b ∈ spellings d v,
        a ∉ reserved → b ∉ reserved → a = b := by
  have hnodup : ((ofDocument context).resolve v).Nodup := by
    rw [resolve_eq]
    exact nodup_eraseDups _
  rw [← List.pairwise_map (R := (· ≠ ·)), ← List.Nodup, List.nodup_map_iff_inj_on hnodup]
  constructor
  · intro h d hd hfree a ha b hb hres hres'
    obtain ⟨hfound, rfl⟩ := mem_spellings_iff.mp ha
    obtain ⟨hfound', heq⟩ := mem_spellings_iff.mp hb
    have hmem := mem_resolve_ofDocument_iff.mpr ⟨hfound, hd, hfree, hres⟩
    have hmem' := mem_resolve_ofDocument_iff.mpr ⟨hfound', heq ▸ hd, heq ▸ hfree, hres'⟩
    exact h a hmem b hmem' heq.symm
  · intro h a ha b hb heq
    obtain ⟨hfound, hd, hfree, hres⟩ := mem_resolve_ofDocument_iff.mp ha
    obtain ⟨hfound', -, -, hres'⟩ := mem_resolve_ofDocument_iff.mp hb
    have hspelled := mem_spellings_iff.mpr ⟨hfound, rfl⟩
    have hspelled' := mem_spellings_iff.mpr ⟨hfound', heq.symm⟩
    exact h (lower a) hd hfree a hspelled b hspelled' hres hres'

/-- Where nothing but the transfer types of a document is asked for, each is found in all its spellings
among the references, but for reserved names, and in each of them once. So no two names differ in the
case of their letters only just if the references spell every transfer type in one way. The block of a
template is rendered for the names that are found. -/
theorem resolve_caseless_iff (context v : Value) :
    make context false [] = .ok (ofDocument context) ∧
    (∀ d ∈ transferTypesOf context, d ∉ builtinTypes →
      ((ofDocument context).resolve v).filter (fun name => lower name = d) =
        (spellings d v).filter fun name => !reserved.contains name) ∧
    (((ofDocument context).resolve v).Pairwise (fun a b => lower a ≠ lower b) ↔
      ∀ d ∈ transferTypesOf context, d ∉ builtinTypes → ∀ a ∈ spellings d v, ∀ b ∈ spellings d v,
        a ∉ reserved → b ∉ reserved → a = b) ∧
    ∀ {e : Engine} {s : Session} {x : Value} {block : Block} {out : List Value → Session → Text}
      (data : Value), s.store.resolve e.context = context → s.store.resolve x = v →
      block.Makes out → (callNamed e data "eachTypeReference" ⟨[x], [], some block⟩).run s =
        (.ok (.markup (((ofDocument context).resolve v).map fun name =>
          out [nameItem name] s).flatten), s) := by
  refine ⟨make_ofDocument context, ?_, pairwise_lower_iff context v, ?_⟩
  · intro d hd hfree
    exact filter_resolve_eq_spellings hd hfree v
  · intro e s x block out data hcontext hx makes
    rw [← hcontext, ← hx]
    exact run_eachTypeReference makes x data

/-- A document with two transfer types. -/
def userContext : Value :=
  .dict [(.text "spec", .dict [(.text "entities", .dict [(.text "types", .list
    [.dict [(.text "name", .text "User"), (.text "type", .text "dto")],
      .dict [(.text "name", .text "Order"), (.text "type", .text "dto")],
      .dict [(.text "name", .text "Status"), (.text "type", .text "enum")]])])])]

/-- References that write each transfer type in one way. -/
def capitalReferences : Value :=
  .list [.dict [(.text "ref", .text "USER[]")],
    .dict [(.text "inner", .dict [(.text "$ref", .text "Map<Status,USER>")])],
    .dict [(.text "ref", .text "Order")]]

/-- The name that a block is called with, and a comma. -/
def nameBlock : Block := fun items => do
  return (← Act.textOf ((items.headD .null).get "name")) ++ [',']

def nameText (items : List Value) (s : Session) : Text :=
  (s.store.resolve ((items.headD .null).get "name")).displayPresent ++ [',']

theorem resolve_caseless_iff_capitalReferences :
    "user".toList ∈ transferTypesOf userContext ∧ "user".toList ∉ builtinTypes ∧
      nameBlock.Makes nameText ∧
      ((ofDocument userContext).resolve capitalReferences).filter (fun name => lower name = "user") =
        ["USER".toList] ∧
      ((ofDocument userContext).resolve capitalReferences).Pairwise (fun a b => lower a ≠ lower b) ∧
      (callNamed { context := userContext } .null "eachTypeReference"
        ⟨[capitalReferences], [], some nameBlock⟩).run {} = (.ok (.markup "USER,Order,"), {}) := by
  have hwalk : walk capitalReferences =
      ["USER", "Map", "Status", "USER", "Order"].map String.toList := by
    decide +kernel
  have hnames : (ofDocument userContext).resolve capitalReferences =
      ["USER", "Order"].map String.toList := by
    rw [resolve_eq, hwalk]
    decide +kernel
  have huser : "user".toList ∈ transferTypesOf userContext := by decide +kernel
  have hfree : "user".toList ∉ builtinTypes := by decide +kernel
  have makes : nameBlock.Makes nameText := fun _ _ => rfl
  obtain ⟨-, hspelled, hdistinct, hrun⟩ := resolve_caseless_iff userContext capitalReferences
  have hblock := hrun (e := { context := userContext }) (s := {}) (x := capitalReferences) .null rfl
    rfl makes
  refine ⟨huser, hfree, makes, ?_, ?_, ?_⟩
  · rw [hspelled _ huser hfree, spellings, hwalk]
    decide +kernel
  · rw [hnames]
    decide +kernel
  · rw [hblock, hnames]
    rfl

/-- References that write a transfer type in two ways. -/
def mixedReferences : Value :=
  .list [.dict [(.text "ref", .text "User")], .dict [(.text "ref", .text "user[]")]]

theorem resolve_mixedReferences :
    (ofDocument userContext).resolve mixedReferences = ["User", "user"].map String.toList ∧
      lower "User" = lower "user" ∧
      ¬ ((ofDocument userContext).resolve mixedReferences).Pairwise
        (fun a b => lower a ≠ lower b) := by
  have hwalk : walk mixedReferences = ["User", "user"].map String.toList := by decide +kernel
  have hnames : (ofDocument userContext).resolve mixedReferences =
      ["User", "user"].map String.toList := by
    rw [resolve_eq, hwalk]
    decide +kernel
  rw [hnames]
  exact ⟨rfl, by decide +kernel, by decide +kernel⟩

end Resolver

end Stencil

import Stencil.Reference.Resolver

namespace Stencil.Reference

mutual

/-- The search for one name goes the way of the walk and stops at a reference where the walk does. -/
theorem hasReference_eq_contains (name : Text) : (v : Value) →
    hasReference name v = (walk v).contains name
  | .list vs | .tuple vs => hasReferenceItems_eq_contains name vs
  | .dict es => by
    rw [hasReference, walk]
    split
    next => rfl
    next => exact hasReferenceEntries_eq_contains name es
  | .null | .undefined | .bool _ | .int _ | .float _ | .text _ | .markup _ | .view _ | .object _
  | .ref _ | .function _ | .method _ _ => rfl

theorem hasReferenceItems_eq_contains (name : Text) : (vs : List Value) →
    hasReferenceItems name vs = (walkItems vs).contains name
  | [] => rfl
  | v :: vs => by
    rw [hasReferenceItems, walkItems, hasReference_eq_contains name v,
      hasReferenceItems_eq_contains name vs, List.contains_eq_any_beq, List.contains_eq_any_beq,
      List.contains_eq_any_beq, List.any_append]

theorem hasReferenceEntries_eq_contains (name : Text) : (es : List (Key × Value)) →
    hasReferenceEntries name es = (walkEntries es).contains name
  | [] => rfl
  | (_, v) :: es => by
    rw [hasReferenceEntries, walkEntries, hasReference_eq_contains name v,
      hasReferenceEntries_eq_contains name es, List.contains_eq_any_beq, List.contains_eq_any_beq,
      List.contains_eq_any_beq, List.any_append]

end

section

variable {m : Type → Type} [Monad m] (accepts : Text → Bool) (onMatch : Text → m Unit)

mutual

/-- A search takes over the names that a walk lists, one after the other. -/
theorem discover_eq_foldlM [LawfulMonad m] (found : List Text) : (v : Value) →
    discover accepts onMatch v found = (walk v).foldlM (note accepts onMatch) found
  | .list vs => discoverItems_eq_foldlM found vs
  | .tuple vs => discoverItems_eq_foldlM found vs
  | .dict es => by
    rw [discover, walk]
    split
    next => rfl
    next => exact discoverEntries_eq_foldlM found es
  | .null | .undefined | .bool _ | .int _ | .float _ | .text _ | .markup _ | .view _ | .object _
  | .ref _ | .function _ | .method _ _ => rfl

theorem discoverItems_eq_foldlM [LawfulMonad m] (found : List Text) : (vs : List Value) →
    discoverItems accepts onMatch vs found = (walkItems vs).foldlM (note accepts onMatch) found
  | [] => rfl
  | v :: vs => by
    rw [discoverItems, walkItems, List.foldlM_append, discover_eq_foldlM found v]
    exact bind_congr fun found => discoverItems_eq_foldlM found vs

theorem discoverEntries_eq_foldlM [LawfulMonad m] (found : List Text) :
    (es : List (Key × Value)) → discoverEntries accepts onMatch es found =
      (walkEntries es).foldlM (note accepts onMatch) found
  | [] => rfl
  | (_, v) :: es => by
    rw [discoverEntries, walkEntries, List.foldlM_append, discover_eq_foldlM found v]
    exact bind_congr fun found => discoverEntries_eq_foldlM found es

end

/-- The accepted names that are not found yet, of equal ones the first. -/
def fresh (found names : List Text) : List Text :=
  (names.filter fun name => accepts name && !found.contains name).eraseDups

theorem fresh_nil_left (names : List Text) :
    fresh accepts [] names = (names.filter accepts).eraseDups := by
  simp [fresh]

variable {found : List Text} {name : Text} (names : List Text)

theorem fresh_cons_of_skip (h : (found.contains name || !accepts name) = true) :
    fresh accepts found (name :: names) = fresh accepts found names := by
  have hname : ¬ (accepts name && !found.contains name) = true := by
    cases ha : accepts name <;> simp_all
  simp only [fresh, List.filter_cons, if_neg hname]

theorem fresh_cons_of_take (h : ¬ (found.contains name || !accepts name) = true) :
    fresh accepts found (name :: names) = name :: fresh accepts (found ++ [name]) names := by
  have hname : (accepts name && !found.contains name) = true := by
    cases ha : accepts name <;> simp_all
  simp only [fresh, List.filter_cons, if_pos hname, List.eraseDups_cons, List.filter_filter]
  congr 3
  funext other
  by_cases hother : other = name <;> simp [hother, Bool.and_comm]

variable [LawfulMonad m]

/-- Taking over names reports the fresh ones and adds them to those that are found. -/
theorem foldlM_note : names.foldlM (note accepts onMatch) found = (do
      (fresh accepts found names).forM onMatch
      return found ++ fresh accepts found names) := by
  induction names generalizing found with
  | nil => simp [fresh]
  | cons name names ih =>
    rw [List.foldlM_cons, note]
    by_cases h : (found.contains name || !accepts name) = true
    · rw [if_pos h, pure_bind, ih, fresh_cons_of_skip accepts names h]
    · rw [if_neg h, fresh_cons_of_take accepts names h]
      simp [ih]

/-- A search reports the first occurrences among the accepted names of a walk, and answers them. -/
theorem discover_eq_report (v : Value) : discover accepts onMatch v [] = (do
      ((walk v).filter accepts).eraseDups.forM onMatch
      return ((walk v).filter accepts).eraseDups) := by
  rw [discover_eq_foldlM, foldlM_note, fresh_nil_left]
  rfl

end

end Stencil.Reference

namespace Stencil.Resolver

theorem run_forM_append (names before : List Text) :
    StateT.run (names.forM fun name => modify (· ++ [name]) : StateM (List Text) PUnit) before =
      (pure (⟨⟩, before ++ names) : Id (PUnit × List Text)) := by
  induction names generalizing before with
  | nil => rw [List.append_nil]; rfl
  | cons name names ih => simpa using ih (before ++ [name])

theorem resolve_eq (r : Resolver) (v : Value) :
    r.resolve v = ((Reference.walk v).filter r.accepts).eraseDups := by
  rw [resolve, Reference.discover_eq_report]
  simp

/-- What a resolver finds are the names of all references, without those that it does not accept and
without repetitions. However it is told of them, it is told of each once and in this order, and the
next search finds the same. -/
theorem resolve_eq_first_accepted (r : Resolver) (v : Value) :
    r.resolve v = ((Reference.walk v).filter r.accepts).eraseDups ∧
      r.resolveReporting v = (r.resolve v, r.resolve v) ∧
      ∀ (m : Type → Type) [Monad m] [LawfulMonad m] (onMatch : Text → m Unit),
        Reference.discover r.accepts onMatch v [] = (do
          (r.resolve v).forM onMatch
          return r.resolve v) ∧
        (do
          let found ← Reference.discover r.accepts onMatch v []
          return (found, ← Reference.discover r.accepts onMatch v [])) = (do
          (r.resolve v).forM onMatch
          (r.resolve v).forM onMatch
          return (r.resolve v, r.resolve v)) := by
  have hdiscover : ∀ (m : Type → Type) [Monad m] [LawfulMonad m] (onMatch : Text → m Unit),
      Reference.discover r.accepts onMatch v [] = (do
        (r.resolve v).forM onMatch
        return r.resolve v) := by
    intro m _ _ onMatch
    rw [r.resolve_eq v]
    exact Reference.discover_eq_report r.accepts onMatch v
  refine ⟨r.resolve_eq v, ?_, fun m _ _ onMatch => ⟨hdiscover m onMatch, ?_⟩⟩
  · rw [resolveReporting, hdiscover, StateT.run_bind, run_forM_append]
    rfl
  · rw [hdiscover]
    simp

/-- A document with nested and repeated references, one of them with a reference below it. -/
def nestedReferences : Value :=
  .list [.dict [(.text "a", .list [.dict [(.text "ref", .text "List<Foo,Bar[]>")]]),
      (.text "b", .dict [(.text "ref", .null), (.text "$ref", .text "Bar"),
        (.text "c", .dict [(.text "ref", .text "Baz")])])],
    .dict [(.text "ref", .text "Foo<string>[]")], .dict [], .null, .text "Foo"]

theorem resolve_nestedReferences :
    Reference.walk nestedReferences = ["List", "Foo", "Bar", "Bar", "Foo", "string"].map String.toList ∧
      ({ includeAll := true } : Resolver).resolve nestedReferences =
        ["List", "Foo", "Bar"].map String.toList ∧
      (Reference.discover ({ includeAll := true } : Resolver).accepts
          (fun name => modify (· ++ [name])) nestedReferences [] : StateM (List Text) (List Text)) = (do
        (["List", "Foo", "Bar"].map String.toList).forM fun name => modify (· ++ [name])
        return ["List", "Foo", "Bar"].map String.toList) := by
  obtain ⟨hresolve, -, hreport⟩ := resolve_eq_first_accepted { includeAll := true } nestedReferences
  have hwalk : Reference.walk nestedReferences =
      ["List", "Foo", "Bar", "Bar", "Foo", "string"].map String.toList := by
    decide +kernel
  have hnames : ({ includeAll := true } : Resolver).resolve nestedReferences =
      ["List", "Foo", "Bar"].map String.toList := by
    rw [hresolve, hwalk]
    decide +kernel
  refine ⟨hwalk, hnames, ?_⟩
  rw [← hnames]
  exact (hreport (StateM (List Text)) fun name => modify (· ++ [name])).1

/-- A name is found exactly when the search that stops at the first hit finds it and the resolver
accepts it. -/
theorem mem_resolve_iff (r : Resolver) (v : Value) (name : Text) :
    name ∈ r.resolve v ↔ Reference.hasReference name v = true ∧ r.accepts name = true := by
  rw [resolve_eq, List.mem_eraseDups, List.mem_filter, Reference.hasReference_eq_contains,
    List.contains_iff_mem]

end Stencil.Resolver

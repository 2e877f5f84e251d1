import Stencil.Proofs.Helper.Switches
import Stencil.Proofs.Text.Fields
import Stencil.Proofs.Value.Entries

namespace Stencil

/-- No key occurs twice, if it is a mapping. -/
def Value.IsWellKeyed (v : Value) : Prop :=
  ∀ es, v = .dict es → Entries.IsMapping es

namespace Helper

section Scopes

variable {name : Text} {looked : Value}

/-- What a scope tells of an entry: the key by a name, all other fields of a mapping, and any other
item as a value. -/
structure Tells (name : Text) (key : Key) (item looked : Value) (fs : Entries) : Prop where
  key : Entries.get? (.text name) fs = some key.toValue
  field : ∀ es, looked = .dict es → ∀ k, k ≠ .text name → Entries.get? k fs = Entries.get? k es
  value : (∀ es, looked ≠ .dict es) → Entries.get? (.text "value") fs = some item

theorem exists_tells (hname : name ≠ "value".toList) (key : Key) (item looked : Value) :
    ∃ fs, namedScope name key item looked = .dict fs ∧ Tells name key item looked fs := by
  cases looked with
  | dict es =>
    refine ⟨_, rfl, ?_, ?_, fun h => absurd rfl (h es)⟩
    · rw [Entries.get?_set_text, if_pos rfl]
    · rintro _ ⟨⟩ k hk
      rw [Entries.get?_set_text, if_neg hk]
  | _ =>
    refine ⟨_, rfl, ?_, nofun, fun _ => ?_⟩
    · rw [Entries.get?_text_cons, if_pos rfl]
    · rw [Entries.get?_text_cons, if_neg (by simpa using hname), Entries.get?_text_cons, if_pos rfl]

/-- The name and number of an argument. -/
def argumentEntries (index : Nat) (key : Key) : Entries :=
  [(.text "argumentName", key.toValue), (.text "index", .int index)]

/-- What the scope of an argument tells of an entry: all fields of a mapping, and the name and
number as far as the mapping has no such fields. -/
structure TellsArgument (index : Nat) (key : Key) (looked : Value) (fs : Entries) : Prop where
  field : ∀ es, looked = .dict es →
    ∀ k, Entries.get? k fs = (Entries.get? k es).or (Entries.get? k (argumentEntries index key))
  other : (∀ es, looked ≠ .dict es) → fs = argumentEntries index key

theorem exists_tellsArgument (hlooked : looked.IsWellKeyed) (index : Nat) (key : Key) :
    ∃ fs, argumentScope index key looked = .dict fs ∧ TellsArgument index key looked fs := by
  cases looked with
  | dict es =>
    refine ⟨_, rfl, ?_, fun h => absurd rfl (h es)⟩
    rintro _ ⟨⟩ k
    exact (hlooked es rfl).get?_update (by simp) k
  | _ => exact ⟨_, rfl, nofun, fun _ => rfl⟩

end Scopes

section Calls

variable {α : Type} {f : Block} {IsScope : Session → α → Value → Prop}

/-- The block is called once for each entry, in their order, with scopes of a certain kind, until a
call fails. The texts of all calls are collected. -/
inductive CallsEach (f : Block) (IsScope : Session → α → Value → Prop) :
    List α → Session → Except Fault (List Text) → Session → Prop
  | done (s : Session) : CallsEach f IsScope [] s (.ok []) s
  | failed {x : α} {xs : List α} {scope : Value} {s s' : Session} {e : Fault} :
    IsScope s x scope → (f [scope]).run s = (.error e, s') →
    CallsEach f IsScope (x :: xs) s (.error e) s'
  | called {x : α} {xs : List α} {scope : Value} {s s' s'' : Session} {t : Text}
    {r : Except Fault (List Text)} :
    IsScope s x scope → (f [scope]).run s = (.ok t, s') → CallsEach f IsScope xs s' r s'' →
    CallsEach f IsScope (x :: xs) s (r.map (t :: ·)) s''

/-- A block that is called with scopes of a certain kind, one after the other. -/
theorem exists_callsEach {g : α → Act Text}
    (h : ∀ x s, ∃ scope, IsScope s x scope ∧ (g x).run s = (f [scope]).run s)
    (xs : List α) (s : Session) :
    ∃ r s', (xs.mapM g).run s = (r, s') ∧ CallsEach f IsScope xs s r s' := by
  induction xs generalizing s with
  | nil => exact ⟨_, _, rfl, .done s⟩
  | cons x xs ih =>
    obtain ⟨scope, hscope, hcall⟩ := h x s
    rw [List.mapM_cons]
    rcases hf : (f [scope]).run s with ⟨e | t, s'⟩
    · exact ⟨_, _, Act.run_bind_error _ (hcall.trans hf), .failed hscope hf⟩
    · obtain ⟨r, s'', hrest, hcalls⟩ := ih s'
      refine ⟨_, _, ?_, .called hscope hf hcalls⟩
      rw [Act.run_bind_ok _ (hcall.trans hf)]
      cases r with
      | error e => exact Act.run_bind_error _ hrest
      | ok ts => exact Act.run_bind_ok _ hrest

theorem CallsEach.mono {IsScope' : Session → α → Value → Prop} {xs : List α} {s s' : Session}
    {r : Except Fault (List Text)} (h : CallsEach f IsScope xs s r s')
    (himp : ∀ x ∈ xs, ∀ s scope, IsScope s x scope → IsScope' s x scope) :
    CallsEach f IsScope' xs s r s' := by
  induction h with
  | done s => exact .done s
  | failed hscope hf => exact .failed (himp _ List.mem_cons_self _ _ hscope) hf
  | called hscope hf _ ih =>
    have hrest := ih fun x hx => himp x (List.mem_cons_of_mem _ hx)
    exact .called (himp _ List.mem_cons_self _ _ hscope) hf hrest

theorem CallsEach.of_singleton {x : α} {s s' : Session} {r : Except Fault (List Text)}
    (h : CallsEach f IsScope [x] s r s') :
    ∃ scope, IsScope s x scope ∧ (do return [← f [scope]]).run s = (r, s') := by
  cases h with
  | failed hscope hf => exact ⟨_, hscope, Act.run_bind_error _ hf⟩
  | called hscope hf hrest =>
    cases hrest
    exact ⟨_, hscope, Act.run_bind_ok _ hf⟩

/-- The text of a field of the scope that a block is called with. -/
def fieldText (name : Text) : Block := fun scopes => Act.textOf ((scopes.headD .null).get name)

theorem run_fieldText {name : Text} {fs : Entries} {v : Value}
    (h : Entries.get? (.text name) fs = some v) (s : Session) :
    (fieldText name [.dict fs]).run s = (.ok (s.store.resolve v).displayPresent, s) := by
  have hget : (Value.dict fs).get name = v := by rw [Value.get, h]; rfl
  rw [← hget]
  rfl

end Calls

section Items

variable {f : Block} {s : Session} {items : Value} {name : Text} {store : Store}

/-- The scope of an entry, as the store is when the block is called. -/
def IsNamedScope (name : Text) (s : Session) (entry : Key × Value) (scope : Value) : Prop :=
  ∃ fs, scope = .dict fs ∧ Tells name entry.1 entry.2 (s.store.look entry.2) fs

/-- For one entry the text of a field is that of what the scope tells by its name. -/
theorem CallsEach.eq_of_tells {field : Text} {entry : Key × Value} {v : Value}
    {r : Except Fault (List Text)} {s' : Session}
    (h : CallsEach (fieldText field) (IsNamedScope name) [entry] s r s')
    (htells : ∀ fs, Tells name entry.1 entry.2 (s.store.look entry.2) fs →
      Entries.get? (.text field) fs = some v) :
    (r, s') = (.ok [(s.store.resolve v).displayPresent], s) := by
  obtain ⟨_, ⟨fs, rfl, hfs⟩, hblock⟩ := h.of_singleton
  rw [Act.run_bind_ok _ (run_fieldText (htells fs hfs) s)] at hblock
  exact hblock.symm

theorem exists_callsEach_renderEntries (hname : name ≠ "value".toList) (entries : Entries)
    (s : Session) : ∃ r s', (renderEntries name entries (some f)).run s = (r, s') ∧
      CallsEach f (IsNamedScope name) entries s r s' := by
  refine exists_callsEach (fun (key, item) s => ?_) entries s
  exact ⟨_, exists_tells hname key item (s.store.look item), rfl⟩

/-- The arguments among some items, with their numbers. -/
def numbered (store : Store) (items : Value) : List ((Key × Value) × Nat) :=
  (entriesOf (store.look items)).zipIdx

/-- The item of an argument says that it may be left out. -/
def isOptional (store : Store) (entry : (Key × Value) × Nat) : Bool :=
  (store.look ((store.look entry.1.2).get "optional")).truthy

/-- The arguments that must be given, and behind them the others, all in their order. -/
def requiredFirst (store : Store) (items : Value) : List ((Key × Value) × Nat) :=
  ((numbered store items).filter fun entry => !isOptional store entry) ++
    (numbered store items).filter (isOptional store)

theorem requiredFirst_perm (store : Store) (items : Value) :
    (requiredFirst store items).Perm (numbered store items) :=
  List.perm_append_comm.trans (List.filter_append_perm (isOptional store) (numbered store items))

/-- The items of all entries are mappings without a key that occurs twice, or no mappings. -/
def AreWellKeyed (store : Store) (items : Value) : Prop :=
  ∀ entry ∈ entriesOf (store.look items), (store.look entry.2).IsWellKeyed

theorem AreWellKeyed.of_mem_numbered (h : AreWellKeyed store items) {entry : (Key × Value) × Nat}
    (hentry : entry ∈ numbered store items) : (store.look entry.1.2).IsWellKeyed :=
  h entry.1 (List.fst_mem_of_mem_zipIdx hentry)

theorem get_optional_argumentScope {looked : Value} (h : looked.IsWellKeyed) (index : Nat)
    (key : Key) : (argumentScope index key looked).get "optional" = looked.get "optional" := by
  have hown : Entries.get? (.text "optional") (argumentEntries index key) = none := by
    simp [argumentEntries, Entries.get?_text_cons, Entries.get?, Key.text_same]
  obtain ⟨fs, hscope, htells⟩ := exists_tellsArgument h index key
  rw [hscope]
  cases looked with
  | dict es =>
    have hget := htells.field es rfl (.text "optional")
    rw [hown, Option.or_none] at hget
    exact congrArg (Option.getD · Value.null) hget
  | _ =>
    rw [htells.other nofun]
    exact congrArg (Option.getD · Value.null) hown

/-- The scope of an argument with a certain number. -/
def scopeIn (store : Store) (entry : (Key × Value) × Nat) : Value :=
  argumentScope entry.2 entry.1.1 (store.look entry.1.2)

theorem run_argumentScopes (h : AreWellKeyed s.store items) : (argumentScopes items).run s =
    (.ok ((requiredFirst s.store items).map (scopeIn s.store)), s) := by
  have hscope : ∀ entry : (Key × Value) × Nat,
      (do return argumentScope entry.2 entry.1.1 (← Act.look entry.1.2) : Act Value).run s =
        (.ok (scopeIn s.store entry), s) := fun _ => rfl
  have hmap : ((entriesOf (s.store.look items)).zipIdx.mapM fun ((key, item), index) => do
      return argumentScope index key (← Act.look item)).run s =
        (.ok ((numbered s.store items).map (scopeIn s.store)), s) :=
    Act.run_mapM_of_forall hscope (numbered s.store items)
  have hget : (get : Act Session).run s = (.ok s, s) := rfl
  have hoptional : ∀ entry ∈ numbered s.store items,
      (s.store.look ((scopeIn s.store entry).get "optional")).truthy = isOptional s.store entry := by
    intro entry hentry
    rw [scopeIn, get_optional_argumentScope (h.of_mem_numbered hentry), isOptional]
  rw [argumentScopes, Act.run_bind_ok _ (Act.run_look items s), Act.run_bind_ok _ hmap,
    Act.run_bind_ok _ hget]
  simp only [List.partition_eq_filter_filter, List.filter_map, Function.comp_def]
  rw [List.filter_congr hoptional, List.filter_congr fun entry hentry => by
    rw [hoptional entry hentry], ← List.map_append]
  rfl

/-- The scope of an argument, as the store was at first. -/
def IsArgumentScope (store : Store) (entry : (Key × Value) × Nat) (scope : Value) : Prop :=
  ∃ fs, scope = .dict fs ∧ TellsArgument entry.2 entry.1.1 (store.look entry.1.2) fs

theorem exists_callsEach_eachArgument (h : AreWellKeyed s.store items) (l : Language) :
    ∃ r s', (eachArgument l items (some f)).run s = (r.map fun texts => .markup (l.arguments
        (texts.map fun t => Text.join " " (Text.fields t))), s') ∧
      CallsEach f (fun _ entry scope => scope = scopeIn s.store entry)
        (requiredFirst s.store items) s r s' := by
  have hscope (entry : (Key × Value) × Nat) (s' : Session) :
      ∃ scope, scope = scopeIn s.store entry ∧
        (f [scopeIn s.store entry]).run s' = (f [scope]).run s' := ⟨_, rfl, rfl⟩
  obtain ⟨r, s', hrun, hcalls⟩ := exists_callsEach hscope (requiredFirst s.store items) s
  have heach : (eachArgument l items (some f)).run s =
      (r.map fun texts =>
        .markup (l.arguments (texts.map fun t => Text.squeeze (Text.strip t))), s') := by
    rw [eachArgument, Act.run_bind_ok _ (run_argumentScopes h), List.mapM_map]
    exact Act.run_bind_pure _ hrun
  simp only [Text.squeeze_strip] at heach
  exact ⟨r, s', heach, hcalls⟩

variable (e : Engine) (data : Value) (f s items)

/-- The blocks of `eachProperty` and `methods` are called once for each entry with a scope in which
the key goes before a field of the same name. So is the block of `arguments`, but there a field of
the item goes before the key, and an item that is no mapping cannot be had. -/
theorem block_called_for_each_entry (h : AreWellKeyed s.store items) :
    (∃ r s', (callNamed e data "eachProperty" ⟨[items], [], some f⟩).run s =
        (r.map fun texts => .markup texts.flatten, s') ∧
      CallsEach f (IsNamedScope "propertyId") (entriesOf (s.store.look items)) s r s') ∧
    (∃ r s', (callNamed e data "methods" ⟨[items], [], some f⟩).run s =
        (r.map fun texts => .markup (e.language.methods texts), s') ∧
      CallsEach f (IsNamedScope "methodName") (entriesOf (s.store.look items)) s r s') ∧
    (∃ r s', (callNamed e data "arguments" ⟨[items], [], some f⟩).run s =
        (r.map fun texts => .markup (e.language.arguments
          (texts.map fun t => Text.join " " (Text.fields t))), s') ∧
      CallsEach f (fun _ => IsArgumentScope s.store) (requiredFirst s.store items) s r s') ∧
    (requiredFirst s.store items).Perm (numbered s.store items) := by
  have hproperty : "propertyId".toList ≠ "value".toList := by decide
  have hmethod : "methodName".toList ≠ "value".toList := by decide
  refine ⟨?_, ?_, ?_, requiredFirst_perm s.store items⟩
  · obtain ⟨r, s', hrun, hcalls⟩ :=
      exists_callsEach_renderEntries (f := f) hproperty (entriesOf (s.store.look items)) s
    exact ⟨r, s', Act.run_bind_pure _ hrun, hcalls⟩
  · obtain ⟨r, s', hrun, hcalls⟩ :=
      exists_callsEach_renderEntries (f := f) hmethod (entriesOf (s.store.look items)) s
    exact ⟨r, s', Act.run_bind_pure _ hrun, hcalls⟩
  · obtain ⟨r, s', hrun, hcalls⟩ := exists_callsEach_eachArgument (f := f) h e.language
    refine ⟨r, s', hrun, hcalls.mono fun entry hentry _ scope hscope => ?_⟩
    have hnumbered := (requiredFirst_perm s.store items).mem_iff.mp hentry
    exact hscope ▸ exists_tellsArgument (h.of_mem_numbered hnumbered) entry.2 entry.1.1

/-- An item with fields that are named as keys are. -/
def ownNames : Value :=
  .dict [(.text "propertyId", .text "z"), (.text "argumentName", .text "z")]

theorem areWellKeyed_ownNames : AreWellKeyed {} (.dict [(.text "a", ownNames)]) := by
  simp [AreWellKeyed, entriesOf, Store.look, Value.IsWellKeyed, ownNames, Entries.IsMapping,
    Key.text_same]

theorem block_called_for_each_entry_ownNames : AreWellKeyed {} (.dict [(.text "a", ownNames)]) ∧
    (callNamed { context := .null } .null "eachProperty"
      ⟨[.dict [(.text "a", ownNames)]], [], some (fieldText "propertyId")⟩).run {} =
        (.ok (.markup "a"), {}) := by
  obtain ⟨r, s', hrun, hcalls⟩ := (block_called_for_each_entry (fieldText "propertyId") {}
    (.dict [(.text "a", ownNames)]) { context := .null } .null areWellKeyed_ownNames).1
  obtain ⟨rfl, rfl⟩ := Prod.mk.inj (hcalls.eq_of_tells fun _ htells => htells.key)
  exact ⟨areWellKeyed_ownNames, hrun⟩

/-- A field of the item hides the key of an argument, and an item that is no mapping cannot be
had. -/
theorem arguments_scope_without_key :
    (¬ ∃ r s', (callNamed { context := .null } .null "arguments"
        ⟨[.dict [(.text "a", ownNames)]], [], some (fieldText "argumentName")⟩).run {} =
        (r.map fun texts => .markup (Language.plain.arguments texts), s') ∧
      CallsEach (fieldText "argumentName") (IsNamedScope "argumentName") [(.text "a", ownNames)]
        {} r s') ∧
    ¬ ∃ r s', (callNamed { context := .null } .null "arguments"
        ⟨[.dict [(.text "a", .int 5)]], [], some (fieldText "value")⟩).run {} =
        (r.map fun texts => .markup (Language.plain.arguments texts), s') ∧
      CallsEach (fieldText "value") (IsNamedScope "argumentName") [(.text "a", .int 5)]
        {} r s' := by
  constructor
  · rintro ⟨r, s', hrun, hcalls⟩
    obtain ⟨rfl, rfl⟩ := Prod.mk.inj (hcalls.eq_of_tells fun _ htells => htells.key)
    have hown : (.ok (.markup "z") : Except Fault Value) = .ok (.markup "a") :=
      congrArg Prod.fst hrun
    cases hown
  · rintro ⟨r, s', hrun, hcalls⟩
    obtain ⟨rfl, rfl⟩ := Prod.mk.inj (hcalls.eq_of_tells fun _ htells => htells.value nofun)
    have hnothing : (.ok (.markup "") : Except Fault Value) = .ok (.markup "5") :=
      congrArg Prod.fst hrun
    cases hnothing

end Items

end Helper

end Stencil

import Stencil.Helper.Kinds
import Stencil.Helper.References
import Stencil.Helper.Structure
import Stencil.Helper.Switch
import Stencil.Proofs.Engine.Mirror
import Stencil.Proofs.Value.Operators
import Stencil.Proofs.Value.Reading

namespace Stencil

def Engine.rename (ρ : Nat → Nat) (e : Engine) : Engine :=
  { e with context := e.context.rename ρ }

namespace Helper

open Act (Mirrors)

/-- Two blocks give the same text for items that are the same but for the names; or there is none in
either place. -/
inductive MirroredBlock (ρ : Nat → Nat) : Option Block → Option Block → Prop
  | none : MirroredBlock ρ none none
  | some {f g : Block} (h : ∀ items, Mirrors ρ id (f items) (g (items.map (Value.rename ρ)))) :
    MirroredBlock ρ (some f) (some g)

variable {ρ : Nat → Nat} {b b' : Option Block}

theorem MirroredBlock.isSome_eq (h : MirroredBlock ρ b b') : b'.isSome = b.isSome := by
  cases h <;> rfl

theorem MirroredBlock.map_const {α : Type} (h : MirroredBlock ρ b b') (x : α) :
    b'.map (fun _ => x) = b.map fun _ => x := by
  cases h <;> rfl

theorem mirrors_renderBlock (h : MirroredBlock ρ b b') (items : List Value) :
    Mirrors ρ id (renderBlock b items) (renderBlock b' (items.map (Value.rename ρ))) := by
  cases h with
  | none => exact .pure rfl
  | some h => exact h items

theorem mirrors_renderEach (h : MirroredBlock ρ b b') (items : List Value) :
    Mirrors ρ id (items.mapM fun item => renderBlock b [item])
      ((items.map (Value.rename ρ)).mapM fun item => renderBlock b' [item]) :=
  .mapMSame items fun item => mirrors_renderBlock h [item]

theorem mirrors_blockOrFlag (h : MirroredBlock ρ b b') (condition : Bool) :
    Mirrors ρ (Value.rename ρ) (blockOrFlag condition b) (blockOrFlag condition b') := by
  cases h with
  | none => exact .pure rfl
  | some h =>
    cases condition with
    | true => exact (h []).bindSame fun t => .pure rfl
    | false => exact .pure rfl

theorem mirrors_blockOrItems (h : MirroredBlock ρ b b') (joiner : Text) (items : List Value) :
    Mirrors ρ (Value.rename ρ) (blockOrItems joiner items b)
      (blockOrItems joiner (items.map (Value.rename ρ)) b') := by
  cases h with
  | none => exact .pure (by simp)
  | some h => exact (mirrors_renderEach (.some h) items).bindSame fun _ => .pure rfl

variable (e : Engine)

theorem mirrors_specField (name : Text) :
    Mirrors ρ (Value.rename ρ) (specField e name) (specField (e.rename ρ) name) := by
  have hspec := (Mirrors.look e.context).map (q := Value.rename ρ) fun v => Value.get_rename ρ "spec" v
  refine hspec.bind fun spec => ?_
  refine (Mirrors.look spec).bind fun spec => ?_
  rw [Value.get_rename]
  exact (Mirrors.look (spec.get name)).bind fun field => .pure rfl

theorem mirrors_resources (collection : Text) :
    Mirrors ρ (List.map (Value.rename ρ)) (resources e collection)
      (resources (e.rename ρ) collection) :=
  (mirrors_specField e collection).bind fun field => .ofExcept (field.iteratePresent_rename ρ)

theorem mirrors_matching (collection request : Text) :
    Mirrors ρ (List.map (Value.rename ρ)) (matching e collection request)
      (matching (e.rename ρ) collection request) := by
  refine .get fun s s' hlook _ => (mirrors_resources e collection).bind fun vs => .pure ?_
  simp [Kind.filter, List.filter_map, Function.comp_def, hlook]

theorem mirrors_eachMatching (h : MirroredBlock ρ b b') (collection request joiner : Text) :
    Mirrors ρ (Value.rename ρ) (eachMatching e collection request b joiner)
      (eachMatching (e.rename ρ) collection request b' joiner) :=
  (mirrors_matching e collection request).bind fun vs => mirrors_blockOrItems h joiner vs

theorem mirrors_ifMatching (h : MirroredBlock ρ b b') (collection request : Text) :
    Mirrors ρ (Value.rename ρ) (ifMatching e collection request b)
      (ifMatching (e.rename ρ) collection request b') := by
  refine .get fun s s' hlook _ => (mirrors_resources e collection).bind fun vs => ?_
  have hseen : (vs.map (Value.rename ρ)).map s'.store.look =
      (vs.map s.store.look).map (Value.rename ρ) := by
    simp [hlook]
  rw [hseen, Kind.has_map_rename]
  exact mirrors_blockOrFlag h _

theorem mirrors_ifUsingAny (h : MirroredBlock ρ b b') (requests : List Text) :
    Mirrors ρ (Value.rename ρ) (ifUsingAny e requests b) (ifUsingAny (e.rename ρ) requests b') := by
  refine .get fun s s' hlook _ => (mirrors_resources e _).bind fun consumers =>
    (mirrors_resources e _).bind fun providers => ?_
  have hseen :
      (consumers.map (Value.rename ρ) ++ providers.map (Value.rename ρ)).map s'.store.look =
        ((consumers ++ providers).map s.store.look).map (Value.rename ρ) := by
    simp [Function.comp_def, hlook]
  have huses (vs : List Value) :
      usesAny (vs.map (Value.rename ρ)) requests = usesAny vs requests := by
    simp [usesAny]
  simp only [hseen, huses]
  exact mirrors_blockOrFlag h _

theorem resolve_rename (r : Resolver) (v : Value) : r.resolve (v.rename ρ) = r.resolve v := by
  rw [Resolver.resolve, Resolver.resolve, Reference.discover_rename]

/-- Reporting names to blocks that give the same texts collects the same texts. -/
theorem mirrors_foldlM_note (accepts : Text → Bool) {f g : Text → Act Text}
    (h : ∀ name, Mirrors ρ id (f name) (g name)) (names found rendered : List Text) :
    Mirrors ρ id
      ((names.foldlM (Reference.note accepts fun name => do
        let t ← f name
        modify (· ++ [t])) found : StateT (List Text) Act (List Text)).run rendered)
      ((names.foldlM (Reference.note accepts fun name => do
        let t ← g name
        modify (· ++ [t])) found : StateT (List Text) Act (List Text)).run rendered) := by
  induction names generalizing found rendered with
  | nil => exact .pure rfl
  | cons name names ih =>
    rw [List.foldlM_cons, List.foldlM_cons, StateT.run_bind, StateT.run_bind]
    refine Mirrors.bindSame ?_ fun p => ih p.1 p.2
    unfold Reference.note
    split
    next => exact .pure rfl
    next =>
      simp only [StateT.run_bind, StateT.run_pure, StateT.run_modify, StateT.run_monadLift,
        monadLift_self, bind_assoc, pure_bind]
      exact (h name).bindSame fun _ => .pure rfl

theorem mirrors_eachTypeReference (h : MirroredBlock ρ b b') (v : Value) (includeAll : Bool)
    (allowed : List Value) :
    Mirrors ρ (Value.rename ρ) (eachTypeReference e v includeAll allowed b)
      (eachTypeReference (e.rename ρ) (v.rename ρ) includeAll (allowed.map (Value.rename ρ))
        b') := by
  refine (Mirrors.resolve e.context).bind fun context => ?_
  refine (Mirrors.ofSame (Resolver.make_rename ρ context includeAll allowed)).bindSame
    fun resolver => ?_
  refine (Mirrors.resolve v).bind fun whole => ?_
  cases h with
  | none => exact .pure (by rw [resolve_rename, Value.rename_ofTexts])
  | some h =>
    rename_i f g
    have hname (name : Text) : Mirrors ρ id (f [.dict [(.text "name", .text name)]])
        (g [.dict [(.text "name", .text name)]]) := by
      simpa using h [.dict [(.text "name", .text name)]]
    simp only [Reference.discover_rename]
    simp only [Reference.discover_eq_foldlM]
    exact (mirrors_foldlM_note resolver.accepts hname (Reference.walk whole) [] []).bindSame
      fun _ => .pure rfl

theorem mirrors_ifTypeReference (h : MirroredBlock ρ b b') (v : Value) (name : Text) :
    Mirrors ρ (Value.rename ρ) (ifTypeReference v name b)
      (ifTypeReference (v.rename ρ) name b') := by
  refine (Mirrors.resolve v).bind fun whole => ?_
  rw [Reference.hasReference_rename]
  exact mirrors_blockOrFlag h _

theorem valueTypeName_rename (v : Value) :
    valueTypeName (v.rename ρ) = (valueTypeName v).rename ρ := by
  have hget : (((v.rename ρ).get "name").orElse ((v.rename ρ).get "ref")).orElse
      ((v.rename ρ).get "type") =
      (((v.get "name").orElse (v.get "ref")).orElse (v.get "type")).rename ρ := by
    rw [Value.get_rename, Value.get_rename, Value.get_rename, ← Value.rename_orElse,
      ← Value.rename_orElse]
  cases v with
  | dict es => exact hget
  | _ => rfl

theorem isValueType_rename (v : Value) : isValueType (v.rename ρ) = isValueType v := by
  simp only [isValueType, valueTypeName_rename, Value.truthy_rename, Value.display_rename]

theorem mirrors_ifValueType (h : MirroredBlock ρ b b') (v : Value) :
    Mirrors ρ (Value.rename ρ) (ifValueType v b) (ifValueType (v.rename ρ) b') := by
  refine (Mirrors.resolve v).bind fun whole => ?_
  rw [isValueType_rename]
  exact mirrors_blockOrFlag h _

theorem entriesOf_rename (v : Value) :
    entriesOf (v.rename ρ) = (entriesOf v).map (Value.renameAt ρ) := by
  cases v <;> simp [entriesOf, List.zipIdx_map, Function.comp_def, Prod.map]

theorem namedScope_rename (name : Text) (key : Key) (item looked : Value) :
    namedScope name key (item.rename ρ) (looked.rename ρ) =
      (namedScope name key item looked).rename ρ := by
  cases looked with
  | dict es =>
    simp only [Value.rename, Value.renameEntries_eq_map, namedScope, ← Value.set_map_renameAt,
      Value.rename_toValue]
  | _ => simp [namedScope]

theorem argumentScope_rename (index : Nat) (key : Key) (item : Value) :
    argumentScope index key (item.rename ρ) = (argumentScope index key item).rename ρ := by
  cases item with
  | dict es =>
    simp only [Value.rename, Value.renameEntries_eq_map, argumentScope, ← Value.update_map_renameAt]
    simp
  | _ => simp [argumentScope]

theorem mirrors_renderEntries (h : MirroredBlock ρ b b') (name : Text) (es : Entries) :
    Mirrors ρ (List.map id) (renderEntries name es b)
      (renderEntries name (es.map (Value.renameAt ρ)) b') := by
  refine .mapM es fun (key, item) => (Mirrors.look item).bind fun looked => ?_
  rw [namedScope_rename]
  exact mirrors_renderBlock h [namedScope name key item looked]

theorem mirrors_eachProperty (h : MirroredBlock ρ b b') (items : Value) :
    Mirrors ρ (Value.rename ρ) (eachProperty items b) (eachProperty (items.rename ρ) b') := by
  refine (Mirrors.look items).bind fun looked => ?_
  rw [entriesOf_rename]
  exact (mirrors_renderEntries h _ _).bind fun _ => .pure (by simp)

theorem mirrors_eachMethod (h : MirroredBlock ρ b b') (l : Language) (items : Value) :
    Mirrors ρ (Value.rename ρ) (eachMethod l items b) (eachMethod l (items.rename ρ) b') := by
  refine (Mirrors.look items).bind fun looked => ?_
  rw [entriesOf_rename]
  exact (mirrors_renderEntries h _ _).bind fun _ => .pure (by simp)

theorem mirrors_argumentScopes (items : Value) :
    Mirrors ρ (List.map (Value.rename ρ)) (argumentScopes items)
      (argumentScopes (items.rename ρ)) := by
  refine (Mirrors.look items).bind fun looked => ?_
  rw [entriesOf_rename, List.zipIdx_map]
  have hscopes (p : (Key × Value) × Nat) :
      Mirrors ρ (Value.rename ρ)
        (do return argumentScope p.2 p.1.1 (← Act.look p.1.2))
        (do return argumentScope p.2 p.1.1 (← Act.look (p.1.2.rename ρ))) :=
    (Mirrors.look p.1.2).bind fun item => .pure (argumentScope_rename p.2 p.1.1 item)
  refine (Mirrors.mapM _ hscopes).bind fun scopes => .get fun s s' hlook _ => ?_
  simp only [List.partition_eq_filter_filter]
  exact .pure (by simp [List.filter_map, Function.comp_def, Value.get_rename, hlook])

theorem mirrors_eachArgument (h : MirroredBlock ρ b b') (l : Language) (items : Value) :
    Mirrors ρ (Value.rename ρ) (eachArgument l items b) (eachArgument l (items.rename ρ) b') :=
  (mirrors_argumentScopes items).bind fun scopes =>
    (mirrors_renderEach h scopes).bindSame fun _ => .pure rfl

theorem compareText_rename (v : Value) : compareText (v.rename ρ) = compareText v := by
  cases v with
  | bool b => rfl
  | _ => exact Value.displayPresent_rename ρ _

theorem mirrors_withSwitch {α β : Type} {r : α → β} {a : Act α} {a' : Act β} (t : Text)
    (h : Mirrors ρ r a a') : Mirrors ρ r (withSwitch t a) (withSwitch t a') := by
  intro rest around s s' he
  obtain ⟨heq, hleft⟩ := h rest (t :: around) { s with switches := t :: s.switches }
    { s' with switches := t :: s'.switches }
    ⟨he.store, congrArg _ he.inside, congrArg _ he.inside'⟩
  exact ⟨heq, hleft.store, congrArg (List.drop 1) hleft.inside, congrArg (List.drop 1) hleft.inside'⟩

theorem mirrors_switch (h : MirroredBlock ρ b b') (v : Value) :
    Mirrors ρ (Value.rename ρ) (switch v b) (switch (v.rename ρ) b') := by
  refine (Mirrors.resolve v).bind fun whole => ?_
  rw [compareText_rename]
  exact mirrors_withSwitch _ ((mirrors_renderBlock h []).bindSame fun _ => .pure rfl)

theorem mirrors_case (h : MirroredBlock ρ b b') (v : Value) :
    Mirrors ρ (Value.rename ρ) (case v b) (case (v.rename ρ) b') := by
  refine (Mirrors.resolve v).bind fun whole => ?_
  rw [compareText_rename]
  refine .get fun s s' _ hswitches => ?_
  rw [hswitches]
  cases s.switches with
  | nil => exact .pure rfl
  | cons current outer =>
    dsimp only
    split
    next => exact (mirrors_renderBlock h []).bindSame fun _ => .pure rfl
    next => exact .pure rfl

end Helper

end Stencil

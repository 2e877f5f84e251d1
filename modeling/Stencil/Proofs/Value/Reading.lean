import Stencil.Entity
import Stencil.Kind
import Stencil.Language.Formatting
import Stencil.Proofs.Reference.Discovery
import Stencil.Proofs.Value.Renaming

namespace Stencil

section

variable (ρ : Nat → Nat)

@[simp] theorem typeName_rename (v : Value) : typeName (v.rename ρ) = typeName v := by
  have hget : ((((v.rename ρ).get "ref").orElse ((v.rename ρ).get "$ref")).orElse
      ((v.rename ρ).get "type")).asText? =
      (((v.get "ref").orElse (v.get "$ref")).orElse (v.get "type")).asText? := by
    rw [Value.get_rename, Value.get_rename, Value.get_rename, ← Value.rename_orElse,
      ← Value.rename_orElse, Value.asText?_rename]
  have hread : (((v.rename ρ).read "ref").orElse ((v.rename ρ).read "type")).asText? =
      ((v.read "ref").orElse (v.read "type")).asText? := by
    rw [Value.read_rename, Value.read_rename, ← Value.rename_orElse, Value.asText?_rename]
  unfold typeName
  rw [Value.truthy_rename]
  split
  next =>
    cases v with
    | text t | markup t => rfl
    | dict es => exact congrArg (·.getD []) hget
    | _ => exact congrArg (·.getD []) hread
  next => rfl

namespace Language

variable (l : Language)

theorem type_rename (v : Value) : l.type (v.rename ρ) = l.type v := by
  rw [type, type, typeName_rename]

theorem returnType_rename (v : Value) : l.returnType (v.rename ρ) = l.returnType v := by
  unfold returnType
  rw [Value.truthy_rename, type_rename]

theorem variableName_rename (v : Value) : l.variableName (v.rename ρ) = l.variableName v := by
  unfold variableName
  rw [typeName_rename, type_rename]

theorem isFlag_rename (v : Value) : l.isFlag (v.rename ρ) = l.isFlag v := by
  unfold isFlag
  rw [typeName_rename]

theorem getter_rename (v : Value) (property : Text) :
    l.getter (v.rename ρ) property = l.getter v property := by
  unfold getter
  rw [isFlag_rename]

end Language

namespace Kind

theorem ofResource?_rename (v : Value) : ofResource? (v.rename ρ) = ofResource? v := by
  rw [ofResource?, ofResource?, Value.truthy_rename, Value.read_rename, Value.asText?_rename]

@[simp] theorem isMatch_rename (request : Text) (v : Value) :
    isMatch request (v.rename ρ) = isMatch request v := by
  rw [isMatch, isMatch, ofResource?_rename]

@[simp] theorem has_map_rename (request : Text) (vs : List Value) :
    has request (vs.map (Value.rename ρ)) = has request vs := by
  simp [has, List.any_map, Function.comp_def]

end Kind

namespace Reference

@[simp] theorem refOf?_map_renameAt (es : Entries) :
    refOf? (es.map (Value.renameAt ρ)) = refOf? es := by
  have hfield (k : Key) : (Entries.get? k (es.map (Value.renameAt ρ))).bind Value.asText? =
      (Entries.get? k es).bind Value.asText? := by
    rw [Value.get?_map_renameAt, Option.bind_map]
    exact congrArg _ (funext fun v => v.asText?_rename ρ)
  rw [refOf?, refOf?, hfield, hfield]

mutual

theorem walk_rename : (v : Value) → walk (v.rename ρ) = walk v
  | .list vs | .tuple vs => walkItems_rename vs
  | .dict es => by
    rw [Value.rename, walk, walk, Value.renameEntries_eq_map, refOf?_map_renameAt,
      ← Value.renameEntries_eq_map, walkEntries_rename es]
  | .null | .undefined | .bool _ | .int _ | .float _ | .text _ | .markup _ | .view _ | .object _
  | .ref _ | .function _ | .method _ _ => rfl

theorem walkItems_rename : (vs : List Value) → walkItems (Value.renameItems ρ vs) = walkItems vs
  | [] => rfl
  | v :: vs => by
    rw [Value.renameItems, walkItems, walkItems, walk_rename v, walkItems_rename vs]

theorem walkEntries_rename : (es : List (Key × Value)) →
    walkEntries (Value.renameEntries ρ es) = walkEntries es
  | [] => rfl
  | (_, v) :: es => by
    rw [Value.renameEntries, walkEntries, walkEntries, walk_rename v, walkEntries_rename es]

end

theorem discover_rename {m : Type → Type} [Monad m] [LawfulMonad m] (accepts : Text → Bool)
    (onMatch : Text → m Unit) (v : Value) (found : List Text) :
    discover accepts onMatch (v.rename ρ) found = discover accepts onMatch v found := by
  rw [discover_eq_foldlM, discover_eq_foldlM, walk_rename]

@[simp] theorem hasReference_rename (name : Text) (v : Value) :
    hasReference name (v.rename ρ) = hasReference name v := by
  rw [hasReference_eq_contains, hasReference_eq_contains, walk_rename]

end Reference

namespace Resolver

theorem transferTypesOf_rename (context : Value) :
    transferTypesOf (context.rename ρ) = transferTypesOf context := by
  unfold transferTypesOf
  rw [Value.get_rename, Value.get_rename, Value.get_rename, Value.items?_rename]
  cases (((context.get "spec").get "entities").get "types").items? with
  | none => rfl
  | some types =>
    dsimp only [Option.map_some]
    rw [List.filterMap_map]
    refine congrArg (List.filterMap · types) (funext fun entity => ?_)
    simp only [Function.comp_apply, Value.get_rename, Value.asText?_rename]

theorem make_rename (context : Value) (includeAll : Bool) (allowed : List Value) :
    make (context.rename ρ) includeAll (allowed.map (Value.rename ρ)) =
      make context includeAll allowed := by
  rw [make, make, Value.memberTexts_map_rename, transferTypesOf_rename]

end Resolver

namespace Entity

@[simp] theorem isOf_rename (name : Text) (v : Value) : isOf name (v.rename ρ) = isOf name v := by
  simp [isOf, sort, Value.get_rename]

@[simp] theorem isMethod_rename (v : Value) : isMethod (v.rename ρ) = isMethod v :=
  isOf_rename ρ _ v

@[simp] theorem isController_rename (v : Value) : isController (v.rename ρ) = isController v :=
  isOf_rename ρ _ v

@[simp] theorem isData_rename (v : Value) : isData (v.rename ρ) = isData v := by
  simp [isData]

theorem namespaceOr_rename {look look' : Value → Value}
    (hlook : ∀ v, look' (v.rename ρ) = (look v).rename ρ) (base v : Value) :
    namespaceOr (base.rename ρ) (v.rename ρ) look' = (namespaceOr base v look).rename ρ := by
  rw [namespaceOr, namespaceOr, Value.get_rename, hlook, Value.truthy_rename]
  split <;> rfl

theorem withNamespace_rename {look look' : Value → Value}
    (hlook : ∀ v, look' (v.rename ρ) = (look v).rename ρ) (base v : Value) :
    withNamespace (base.rename ρ) (v.rename ρ) look' = (withNamespace base v look).rename ρ := by
  cases v with
  | dict es =>
    have hnamespace := namespaceOr_rename ρ hlook base (.dict es)
    simp only [Value.rename, Value.renameEntries_eq_map] at hnamespace
    simp only [Value.rename, Value.renameEntries_eq_map, withNamespace, hnamespace,
      Value.set_map_renameAt]
  | _ => rfl

theorem hoisting_rename (base : Value) (methods : List Value) :
    hoisting (base.rename ρ) (methods.map (Value.rename ρ)) = (hoisting base methods).rename ρ := by
  simp [hoisting]

theorem reshape_rename {look look' : Value → Value}
    (hlook : ∀ v, look' (v.rename ρ) = (look v).rename ρ) (entities : List Value) (base : Value) :
    reshape (entities.map (Value.rename ρ)) (base.rename ρ) look' =
      (reshape entities base look).map (Value.rename ρ) := by
  have hentity (v : Value) :
      (if isController (look v) then (withNamespace base (look v) look).rename ρ
        else v.rename ρ) =
      (if isController (look v) then withNamespace base (look v) look else v).rename ρ := by
    split <;> rfl
  have hlast (methods : List Value) :
      (if methods.isEmpty then [] else [hoisting (base.rename ρ) (methods.map (Value.rename ρ))]) =
      (if methods.isEmpty then [] else [hoisting base methods]).map (Value.rename ρ) := by
    rw [hoisting_rename]
    split <;> rfl
  unfold reshape
  simp only [List.filter_map, List.map_map, Function.comp_def, List.map_append, hlook,
    isMethod_rename, isController_rename, withNamespace_rename ρ hlook, hentity, List.isEmpty_map, hlast]

@[simp] theorem markName?_rename (v : Value) : markName? (v.rename ρ) = markName? v := by
  cases v with
  | dict es =>
    exact (congrArg Value.asText? (Value.get_rename ρ "type" (.dict es))).trans
      (Value.asText?_rename ρ _)
  | _ => rfl

theorem isNative_rename (v : Value) : isNative (v.rename ρ) = isNative v := by
  rw [isNative, isNative, Value.get_rename, Value.iteratePresent_rename]
  cases (v.get "annotations").iteratePresent with
  | error f => rfl
  | ok marks =>
    simp [Except.map, bind, Except.bind, List.any_map, Function.comp_def]

theorem plainTypeText_rename (v : Value) :
    plainTypeText (v.rename ρ) = (plainTypeText v).rename ρ := by
  rw [plainTypeText, plainTypeText, Value.asText?_rename, Value.displayTrue_rename]
  cases v.asText? <;> simp

theorem assembleType_rename (name : Value) (arguments : List Value) (isList : Bool) :
    assembleType (name.rename ρ) (arguments.map (Value.rename ρ)) isList =
      (assembleType name arguments isList).map (Value.rename ρ) := by
  have htexts : (arguments.map (Value.rename ρ)).mapM Value.asText? =
      arguments.mapM Value.asText? := by
    rw [List.mapM_map]
    exact congrArg (List.mapM · arguments) (funext fun v => v.asText?_rename ρ)
  rw [assembleType, assembleType, List.isEmpty_map, htexts]
  split
  next => rfl
  next =>
    cases arguments.mapM Value.asText? with
    | none => rfl
    | some ts => cases name <;> simp [Except.map]

theorem map_plainTypeText_rename (v : Value) :
    (v.rename ρ).iteratePresent.map (fun items => items.map plainTypeText) =
      (v.iteratePresent.map fun items => items.map plainTypeText).map
        (List.map (Value.rename ρ)) := by
  rw [Value.iteratePresent_rename]
  cases v.iteratePresent with
  | error f => rfl
  | ok items => simp [Except.map, plainTypeText_rename, Function.comp_def]

mutual

theorem typeText_rename : (v : Value) →
    typeText (v.rename ρ) = (typeText v).map (Value.rename ρ)
  | .dict es => by
    have harguments := argumentTexts_rename es
    rw [Value.renameEntries_eq_map] at harguments
    have hfield (k : Key) : ((Entries.get? k (es.map (Value.renameAt ρ))).getD .null) =
        ((Entries.get? k es).getD .null).rename ρ := by
      rw [Value.get?_map_renameAt]
      exact Value.getD_map_rename ρ _ .null
    rw [Value.rename, Value.renameEntries_eq_map, typeText, typeText, List.isEmpty_map, harguments,
      hfield, hfield, Value.truthy_rename, Value.orElse_text_rename]
    split
    next => rfl
    next =>
      cases argumentTexts es with
      | error f => rfl
      | ok texts => exact assembleType_rename ρ _ texts _
  | .null | .undefined | .bool _ | .int _ | .float _ | .text _ | .markup _ | .list _ | .tuple _
  | .view _ | .object _ | .ref _ | .function _ | .method _ _ =>
    congrArg Except.ok (plainTypeText_rename ρ _)

theorem typeTexts_rename : (vs : List Value) →
    typeTexts (Value.renameItems ρ vs) = (typeTexts vs).map (List.map (Value.rename ρ))
  | [] => rfl
  | v :: vs => by
    rw [Value.renameItems, typeTexts, typeTexts, typeText_rename v, typeTexts_rename vs]
    cases typeText v with
    | error f => rfl
    | ok t => cases typeTexts vs <;> rfl

theorem typeTextsOf_rename (v : Value) :
    typeTextsOf (v.rename ρ) = (typeTextsOf v).map (List.map (Value.rename ρ)) := by
  have hplain := map_plainTypeText_rename ρ v
  cases v with
  | list vs | tuple vs => exact typeTexts_rename vs
  | _ => exact hplain

theorem argumentTexts_rename : (es : List (Key × Value)) →
    argumentTexts (Value.renameEntries ρ es) = (argumentTexts es).map (List.map (Value.rename ρ))
  | [] => rfl
  | (k, v) :: es => by
    rw [Value.renameEntries, argumentTexts, argumentTexts, typeTextsOf_rename v,
      argumentTexts_rename es]
    split <;> rfl

end

theorem typeNames_rename (v : Value) : typeNames (v.rename ρ) = typeNames v := by
  rw [typeNames, typeNames, typeText_rename]
  cases typeText v with
  | error f => rfl
  | ok written =>
    simp only [Except.map, bind, Except.bind, Value.truthy_rename, Value.asText?_rename]

theorem anyProperty_map_rename (name : Text) (properties : List Value) :
    anyProperty name (properties.map (Value.rename ρ)) = anyProperty name properties := by
  induction properties with
  | nil => rfl
  | cons property rest ih =>
    have htype := typeNames_rename ρ (property.get "type")
    rw [← Value.get_rename] at htype
    cases property with
    | dict es =>
      rw [List.map_cons, Value.rename] at *
      rw [anyProperty, anyProperty, ih, htype]
    | _ => exact ih

theorem hasTypeReference_rename (name : Text) (v : Value) :
    hasTypeReference name (v.rename ρ) = hasTypeReference name v := by
  rw [hasTypeReference, hasTypeReference, isOf_rename, Value.get_rename,
    Value.iteratePresent_rename]
  cases (v.get "properties").iteratePresent with
  | error f => rfl
  | ok properties =>
    split
    next => exact anyProperty_map_rename ρ name properties
    next => rfl

theorem loweredText_rename (v : Value) : loweredText (v.rename ρ) = loweredText v := by
  rw [loweredText, loweredText, Value.asText?_rename]

theorem controllerName_rename (v : Value) : controllerName (v.rename ρ) = controllerName v := by
  unfold controllerName
  simp only [Value.orElse_text_rename, Value.read_rename, Value.truthy_rename, loweredText_rename,
    Value.displayTrue_rename]
  cases v <;> rfl

end Entity

end

end Stencil

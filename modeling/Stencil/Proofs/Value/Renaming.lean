import Stencil.Json.Printer
import Stencil.Value.Arithmetic
import Stencil.Value.Display
import Stencil.Value.Iterate

namespace Stencil

namespace Value

mutual

/-- Gives other names to the cells that a value refers to. -/
def rename (ρ : Nat → Nat) : Value → Value
  | null => null
  | undefined => undefined
  | bool b => bool b
  | int n => int n
  | float x => float x
  | text t => text t
  | markup t => markup t
  | list vs => list (renameItems ρ vs)
  | tuple vs => tuple (renameItems ρ vs)
  | view vs => view (renameItems ρ vs)
  | dict es => dict (renameEntries ρ es)
  | object es => object (renameEntries ρ es)
  | ref c => ref (ρ c)
  | function f => function f
  | method v f => method (rename ρ v) f

def renameItems (ρ : Nat → Nat) : List Value → List Value
  | [] => []
  | v :: vs => rename ρ v :: renameItems ρ vs

def renameEntries (ρ : Nat → Nat) : List (Key × Value) → List (Key × Value)
  | [] => []
  | (k, v) :: es => (k, rename ρ v) :: renameEntries ρ es

end

/-- Renames what stands under a name. -/
def renameAt {κ : Type} (ρ : Nat → Nat) (p : κ × Value) : κ × Value :=
  (p.1, p.2.rename ρ)

section

variable {ρ : Nat → Nat} {κ : Type} {v w : Value} {vs ws : List Value} {es fs : Entries}

theorem renameItems_eq_map (ρ : Nat → Nat) (vs : List Value) :
    renameItems ρ vs = vs.map (rename ρ) := by
  induction vs with
  | nil => rfl
  | cons v vs ih => rw [renameItems, ih, List.map_cons]

theorem renameEntries_eq_map (ρ : Nat → Nat) (es : Entries) :
    renameEntries ρ es = es.map (renameAt ρ) := by
  induction es with
  | nil => rfl
  | cons e es ih => rw [renameEntries, ih, List.map_cons, renameAt]

mutual

theorem rename_id : (v : Value) → v.rename id = v
  | list vs => congrArg list (renameItems_id vs)
  | tuple vs => congrArg tuple (renameItems_id vs)
  | view vs => congrArg view (renameItems_id vs)
  | dict es => congrArg dict (renameEntries_id es)
  | object es => congrArg object (renameEntries_id es)
  | method v f => congrArg (method · f) (rename_id v)
  | null | undefined | bool _ | int _ | float _ | text _ | markup _ | ref _ | function _ => rfl

theorem renameItems_id : (vs : List Value) → renameItems id vs = vs
  | [] => rfl
  | v :: vs => by rw [renameItems, rename_id v, renameItems_id vs]

theorem renameEntries_id : (es : List (Key × Value)) → renameEntries id es = es
  | [] => rfl
  | (k, v) :: es => by rw [renameEntries, rename_id v, renameEntries_id es]

end

theorem renameAt_id : renameAt id = (id : κ × Value → κ × Value) :=
  funext fun p => congrArg (p.1, ·) (rename_id p.2)

attribute [simp] rename renameItems_eq_map renameEntries_eq_map

@[simp] theorem renameAt_mk (ρ : Nat → Nat) (k : κ) (v : Value) :
    renameAt ρ (k, v) = (k, v.rename ρ) := rfl
@[simp] theorem renameAt_fst (ρ : Nat → Nat) (p : κ × Value) : (renameAt ρ p).1 = p.1 := rfl

theorem lookup_map_renameAt [BEq κ] (ρ : Nat → Nat) (k : κ) (ps : List (κ × Value)) :
    (ps.map (renameAt ρ)).lookup k = (ps.lookup k).map (rename ρ) := by
  induction ps with
  | nil => rfl
  | cons p ps ih =>
    rw [List.map_cons, List.lookup_cons, List.lookup_cons, renameAt_fst, ih]
    cases k == p.1 <;> rfl

@[simp] theorem asText?_rename (ρ : Nat → Nat) (v : Value) : (v.rename ρ).asText? = v.asText? := by
  cases v <;> simp [asText?]

@[simp] theorem entries?_rename (ρ : Nat → Nat) (v : Value) :
    (v.rename ρ).entries? = v.entries?.map (List.map (renameAt ρ)) := by
  cases v <;> simp [entries?]

@[simp] theorem items?_rename (ρ : Nat → Nat) (v : Value) :
    (v.rename ρ).items? = v.items?.map (List.map (rename ρ)) := by
  cases v <;> simp [items?]

@[simp] theorem truthy_rename (ρ : Nat → Nat) (v : Value) : (v.rename ρ).truthy = v.truthy := by
  cases v <;> simp [truthy]

@[simp] theorem isMissing_rename (ρ : Nat → Nat) (v : Value) :
    (v.rename ρ).isMissing = v.isMissing := by
  cases v <;> simp [isMissing]

@[simp] theorem asKey?_rename (ρ : Nat → Nat) (v : Value) : (v.rename ρ).asKey? = v.asKey? := by
  cases v <;> simp [asKey?]

@[simp] theorem number?_rename (ρ : Nat → Nat) (v : Value) : (v.rename ρ).number? = v.number? := by
  cases v <;> simp [number?]

@[simp] theorem rename_toValue (ρ : Nat → Nat) (k : Key) : k.toValue.rename ρ = k.toValue := by
  cases k <;> simp [Key.toValue]

@[simp] theorem rename_number (ρ : Nat → Nat) (x : Number) : x.toValue.rename ρ = x.toValue := by
  cases x <;> simp [Number.toValue]

@[simp] theorem rename_ofTexts (ρ : Nat → Nat) (ts : List Text) :
    (ofTexts ts).rename ρ = ofTexts ts := by
  simp [ofTexts, Function.comp_def]

theorem rename_orElse (ρ : Nat → Nat) (v w : Value) :
    (v.orElse w).rename ρ = (v.rename ρ).orElse (w.rename ρ) := by
  rw [orElse, orElse, truthy_rename]
  split <;> rfl

theorem orElse_text_rename (ρ : Nat → Nat) (v : Value) (t : Text) :
    (v.rename ρ).orElse (.text t) = (v.orElse (.text t)).rename ρ :=
  (rename_orElse ρ v (.text t)).symm

theorem getD_map_rename (ρ : Nat → Nat) (o : Option Value) (v : Value) :
    (o.map (rename ρ)).getD (v.rename ρ) = (o.getD v).rename ρ := by
  cases o <;> rfl

@[simp] theorem get?_map_renameAt (ρ : Nat → Nat) (k : Key) (es : Entries) :
    Entries.get? k (es.map (renameAt ρ)) = (Entries.get? k es).map (rename ρ) := by
  induction es with
  | nil => rfl
  | cons e es ih =>
    rw [List.map_cons, renameAt, Entries.get?, Entries.get?, ih]
    split <;> rfl

theorem set_map_renameAt (ρ : Nat → Nat) (k : Key) (v : Value) (es : Entries) :
    Entries.set k (v.rename ρ) (es.map (renameAt ρ)) = (Entries.set k v es).map (renameAt ρ) := by
  induction es with
  | nil => rfl
  | cons e es ih =>
    rw [List.map_cons, renameAt, Entries.set, Entries.set, ih]
    split <;> rfl

theorem update_map_renameAt (ρ : Nat → Nat) (es fs : Entries) :
    Entries.update (es.map (renameAt ρ)) (fs.map (renameAt ρ)) =
      (Entries.update es fs).map (renameAt ρ) := by
  induction fs generalizing es with
  | nil => rfl
  | cons f fs ih =>
    show Entries.update (Entries.set f.1 (f.2.rename ρ) (es.map (renameAt ρ)))
      (fs.map (renameAt ρ)) = _
    rw [set_map_renameAt]
    exact ih _

theorem ofList_map_renameAt (ρ : Nat → Nat) (es : Entries) :
    Entries.ofList (es.map (renameAt ρ)) = (Entries.ofList es).map (renameAt ρ) :=
  update_map_renameAt ρ [] es

theorem get_rename (ρ : Nat → Nat) (name : Text) (v : Value) :
    (v.rename ρ).get name = (v.get name).rename ρ := by
  cases v with
  | dict es =>
    simp only [rename, renameEntries_eq_map, get, get?_map_renameAt]
    exact getD_map_rename ρ _ null
  | _ => rfl

theorem read_rename (ρ : Nat → Nat) (name : Text) (v : Value) :
    (v.rename ρ).read name = (v.read name).rename ρ := by
  cases v with
  | dict es | object es =>
    simp only [rename, renameEntries_eq_map, read, get?_map_renameAt]
    exact getD_map_rename ρ _ null
  | _ => rfl

theorem iterate_rename (ρ : Nat → Nat) (v : Value) :
    (v.rename ρ).iterate = v.iterate.map (List.map (rename ρ)) := by
  cases v <;> simp [iterate, Except.map, Function.comp_def]

theorem iteratePresent_rename (ρ : Nat → Nat) (v : Value) :
    (v.rename ρ).iteratePresent = v.iteratePresent.map (List.map (rename ρ)) := by
  rw [iteratePresent, iteratePresent, truthy_rename, iterate_rename]
  split <;> rfl

theorem asList_rename (ρ : Nat → Nat) (v : Value) :
    (v.rename ρ).asList = v.asList.map (List.map (rename ρ)) := by
  rw [asList, asList, truthy_rename, asText?_rename, iterate_rename]
  split
  next => split <;> rfl
  next => rfl

theorem memberTexts_map_rename (ρ : Nat → Nat) (vs : List Value) :
    memberTexts (vs.map (rename ρ)) = memberTexts vs := by
  simp [memberTexts, List.filterMap_map, Function.comp_def]

mutual

theorem shown_rename (ρ : Nat → Nat) : (v : Value) → (v.rename ρ).shown = v.shown
  | list vs => congrArg (fun ts => '[' :: Text.join ", " ts ++ "]") (shownItems_rename ρ vs)
  | tuple vs => congrArg tupleText (shownItems_rename ρ vs)
  | view vs =>
    congrArg (fun ts => "dict_items([" ++ Text.join ", " ts ++ "])") (shownItems_rename ρ vs)
  | dict es => congrArg (fun ts => '{' :: Text.join ", " ts ++ ['}']) (shownEntries_rename ρ es)
  | null | undefined | bool _ | int _ | float _ | text _ | markup _ | object _ | ref _ | function _
  | method _ _ => rfl

theorem shownItems_rename (ρ : Nat → Nat) :
    (vs : List Value) → shownItems (renameItems ρ vs) = shownItems vs
  | [] => rfl
  | v :: vs => by
    rw [renameItems, shownItems, shownItems, shown_rename, shownItems_rename]

theorem shownEntries_rename (ρ : Nat → Nat) :
    (es : List (Key × Value)) → shownEntries (renameEntries ρ es) = shownEntries es
  | [] => rfl
  | (k, v) :: es => by
    rw [renameEntries, shownEntries, shownEntries, shown_rename, shownEntries_rename]

end

@[simp] theorem display_rename (ρ : Nat → Nat) (v : Value) : (v.rename ρ).display = v.display := by
  cases v with
  | undefined | text t | markup t => simp
  | _ => exact shown_rename ρ _

@[simp] theorem displayPresent_rename (ρ : Nat → Nat) (v : Value) :
    (v.rename ρ).displayPresent = v.displayPresent := by
  simp [displayPresent]

@[simp] theorem displayTrue_rename (ρ : Nat → Nat) (v : Value) :
    (v.rename ρ).displayTrue = v.displayTrue := by
  simp [displayTrue]

end

end Value

section

variable (ρ : Nat → Nat) (l : Json.Layout)

mutual

theorem Json.write_rename (depth : Nat) :
    (v : Value) → Json.write l depth (v.rename ρ) = Json.write l depth v
  | .list vs =>
    congrArg (Except.map (l.block depth '[' ']')) (Json.writeItems_rename (depth + 1) vs)
  | .tuple vs =>
    congrArg (Except.map (l.block depth '[' ']')) (Json.writeItems_rename (depth + 1) vs)
  | .dict es =>
    congrArg (Except.map (l.block depth '{' '}')) (Json.writeEntries_rename (depth + 1) es)
  | .null | .undefined | .bool _ | .int _ | .float _ | .text _ | .markup _ | .view _ | .object _
  | .ref _ | .function _ | .method _ _ => rfl

theorem Json.writeItems_rename (depth : Nat) : (vs : List Value) →
    Json.writeItems l depth (Value.renameItems ρ vs) = Json.writeItems l depth vs
  | [] => rfl
  | v :: vs => by
    rw [Value.renameItems, Json.writeItems, Json.writeItems, Json.write_rename depth v,
      Json.writeItems_rename depth vs]

theorem Json.writeEntries_rename (depth : Nat) : (es : List (Key × Value)) →
    Json.writeEntries l depth (Value.renameEntries ρ es) = Json.writeEntries l depth es
  | [] => rfl
  | (k, v) :: es => by
    rw [Value.renameEntries, Json.writeEntries, Json.writeEntries, Json.write_rename depth v,
      Json.writeEntries_rename depth es]

end

end

end Stencil

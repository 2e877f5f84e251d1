import Stencil.Entity
import Stencil.Proofs.Reference.Reading

namespace Stencil

open Reference

namespace Reference.TypeExpr

/-- A name with arguments, if there are any, or an array of that. -/
def ofParts (n : TypeName) (arguments : List TypeExpr) (isList : Bool) : TypeExpr :=
  let inner := match arguments with
    | [] => name n
    | first :: rest => generic n first rest
  if isList then array inner else inner

variable {n : TypeName} {arguments : List TypeExpr} {isList : Bool}

theorem text_ofParts : (ofParts n arguments isList).text =
    n.text ++ (if arguments.isEmpty then []
      else '<' :: (Text.join "," (arguments.map text) ++ ['>'])) ++
        if isList then ['[', ']'] else [] := by
  cases arguments with
  | nil => cases isList <;> simp [ofParts, text]
  | cons first rest =>
    have htext := text_generic n first rest
    cases isList <;> simp [ofParts, text, htext, textsOf_eq_map]

theorem isFlat_ofParts (h : ∀ e ∈ arguments, e.isFlat = true) :
    (ofParts n arguments isList).isFlat = true := by
  cases arguments with
  | nil => cases isList <;> rfl
  | cons first rest =>
    have hgeneric : (generic n first rest).isFlat = true := by
      rw [isFlat_generic, List.all_eq_true]
      exact h
    cases isList with
    | false => exact hgeneric
    | true => simpa [ofParts, isFlat, isArray] using hgeneric

end Reference.TypeExpr

namespace Entity

mutual

/-- The value is a structured type: a name, or a mapping with a name, arguments and a list flag. A
name that is marked as escaped takes no arguments. -/
inductive IsType : Value → TypeExpr → Prop
  | name {v : Value} {n : TypeName} : v.asText? = some n.text → IsType v (.name n)
  | parts {es : Entries} {n : TypeName} {arguments : List TypeExpr} :
      ((Value.dict es).get "name").asText? = some n.text →
      (arguments ≠ [] → (Value.dict es).get "name" = .text n.text) →
      AreArguments ((Value.dict es).get "generics") arguments →
      IsType (.dict es) (.ofParts n arguments ((Value.dict es).get "list").truthy)

/-- The value holds the arguments of a type: it is a list, or there is nothing. -/
inductive AreArguments : Value → List TypeExpr → Prop
  | none {v : Value} : v.truthy = false → AreArguments v []
  | list {vs : List Value} {es : List TypeExpr} : AreTypes vs es → AreArguments (.list vs) es
  | tuple {vs : List Value} {es : List TypeExpr} : AreTypes vs es → AreArguments (.tuple vs) es

inductive AreTypes : List Value → List TypeExpr → Prop
  | nil : AreTypes [] []
  | cons {v : Value} {e : TypeExpr} {vs : List Value} {es : List TypeExpr} :
      IsType v e → AreTypes vs es → AreTypes (v :: vs) (e :: es)

end

theorem argumentTexts_eq (es : Entries) :
    argumentTexts es = typeTextsOf ((Value.dict es).get "generics") := by
  induction es with
  | nil => rfl
  | cons entry es ih =>
    obtain ⟨k, v⟩ := entry
    rw [argumentTexts, Value.get, Entries.get?]
    by_cases hkey : Key.same (.text "generics") k = true
    · rw [if_pos hkey, if_pos hkey, Option.getD_some]
    · rw [if_neg hkey, if_neg hkey]
      exact ih

theorem typeTextsOf_of_not_truthy {v : Value} (h : v.truthy = false) : typeTextsOf v = .ok [] := by
  have hpresent : v.iteratePresent = .ok [] := by
    rw [Value.iteratePresent, if_neg (by simp [h])]
  have hother : v.iteratePresent.map (fun items => items.map plainTypeText) = .ok [] := by
    rw [hpresent]
    rfl
  cases v with
  | list vs =>
    obtain rfl : vs = [] := by simpa [Value.truthy] using h
    rfl
  | tuple vs =>
    obtain rfl : vs = [] := by simpa [Value.truthy] using h
    rfl
  | _ => exact hother

/-- The values are the texts of expressions. -/
def AreTextsOf (vs : List Value) (es : List TypeExpr) : Prop :=
  vs.map Value.asText? = es.map fun e => some e.text

theorem AreTextsOf.mapM_asText? {vs : List Value} {es : List TypeExpr} (h : AreTextsOf vs es) :
    vs.mapM Value.asText? = some (es.map TypeExpr.text) := by
  induction vs generalizing es with
  | nil =>
    obtain rfl : es = [] := by simpa [AreTextsOf] using h.symm
    rfl
  | cons v vs ih =>
    cases es with
    | nil => simp [AreTextsOf] at h
    | cons e es =>
      obtain ⟨hv, hvs⟩ := List.cons.inj h
      rw [List.mapM_cons, hv, ih hvs]
      rfl

theorem AreTextsOf.isEmpty_eq {vs : List Value} {es : List TypeExpr} (h : AreTextsOf vs es) :
    vs.isEmpty = es.isEmpty := by
  have hlength : vs.length = es.length := by simpa using congrArg List.length h
  cases vs <;> cases es <;> simp_all

theorem truthy_of_asText? {v : Value} {t : Text} (h : v.asText? = some t) (hne : t ≠ []) :
    v.truthy = true := by
  cases v with
  | text s | markup s =>
    obtain rfl : s = t := Option.some.inj h
    simp [Value.truthy, hne]
  | _ => simp [Value.asText?] at h

theorem typeText_of_asText? {v : Value} {t : Text} (h : v.asText? = some t) :
    typeText v = .ok v := by
  cases v with
  | text s | markup s => rfl
  | _ => simp [Value.asText?] at h

/-- The parts of a type are put together to the text of its expression. -/
theorem assembleType_eq {name : Value} {n : TypeName} {ws : List Value}
    {arguments : List TypeExpr} (isList : Bool) (hname : name.asText? = some n.text)
    (hplain : arguments ≠ [] → name = .text n.text) (hws : AreTextsOf ws arguments) :
    ∃ w, assembleType name ws isList = .ok w ∧
      w.asText? = some (TypeExpr.ofParts n arguments isList).text := by
  rw [assembleType, hws.isEmpty_eq, hws.mapM_asText?, TypeExpr.text_ofParts]
  cases arguments with
  | nil =>
    cases isList with
    | false => exact ⟨name, rfl, by simpa using hname⟩
    | true =>
      cases name with
      | text t | markup t =>
        obtain rfl : t = n.text := Option.some.inj hname
        exact ⟨_, rfl, by simp [Value.asText?, Text.escapeMarkup]⟩
      | _ => simp [Value.asText?] at hname
  | cons first rest =>
    rw [hplain (by simp)]
    cases isList <;> simp [Value.asText?]

mutual

theorem IsType.typeText : {v : Value} → {e : TypeExpr} → IsType v e →
    ∃ w, Entity.typeText v = .ok w ∧ w.asText? = some e.text
  | _, _, .name hname => ⟨_, typeText_of_asText? hname, hname⟩
  | _, _, @IsType.parts es n _ hname hplain harguments => by
    obtain ⟨ws, hws, htexts⟩ := harguments.typeTextsOf
    have htruthy := truthy_of_asText? hname n.text_ne
    have hes : es.isEmpty = false := by
      cases es with
      | nil => simp [Value.get, Entries.get?, Value.asText?] at hname
      | cons entry es => rfl
    have hor : ((Value.dict es).get "name").orElse (.text []) = (Value.dict es).get "name" := by
      rw [Value.orElse, if_pos htruthy]
    obtain ⟨w, hw, htext⟩ := assembleType_eq ((Value.dict es).get "list").truthy hname hplain htexts
    refine ⟨w, ?_, htext⟩
    rw [Entity.typeText, hes, argumentTexts_eq, hws, ← hw, ← hor]
    rfl

theorem AreArguments.typeTextsOf : {v : Value} → {es : List TypeExpr} → AreArguments v es →
    ∃ ws, Entity.typeTextsOf v = .ok ws ∧ AreTextsOf ws es
  | _, _, .none hv => ⟨[], typeTextsOf_of_not_truthy hv, rfl⟩
  | _, _, .list hvs => hvs.typeTexts
  | _, _, .tuple hvs => hvs.typeTexts

theorem AreTypes.typeTexts : {vs : List Value} → {es : List TypeExpr} → AreTypes vs es →
    ∃ ws, Entity.typeTexts vs = .ok ws ∧ AreTextsOf ws es
  | _, _, .nil => ⟨[], rfl, rfl⟩
  | _, _, .cons hv hvs => by
    obtain ⟨w, hw, htext⟩ := hv.typeText
    obtain ⟨ws, hws, htexts⟩ := hvs.typeTexts
    refine ⟨w :: ws, ?_, ?_⟩
    · rw [Entity.typeTexts, hw, hws]
      rfl
    · rw [AreTextsOf, List.map_cons, List.map_cons, htext, htexts]

end

mutual

theorem IsType.isFlat : {v : Value} → {e : TypeExpr} → IsType v e → e.isFlat = true
  | _, _, .name _ => rfl
  | _, _, .parts _ _ harguments => TypeExpr.isFlat_ofParts harguments.isFlat

theorem AreArguments.isFlat : {v : Value} → {es : List TypeExpr} → AreArguments v es →
    ∀ e ∈ es, e.isFlat = true
  | _, _, .none _ => by simp
  | _, _, .list hvs => hvs.isFlat
  | _, _, .tuple hvs => hvs.isFlat

theorem AreTypes.isFlat : {vs : List Value} → {es : List TypeExpr} → AreTypes vs es →
    ∀ e ∈ es, e.isFlat = true
  | _, _, .nil => by simp
  | _, _, .cons hv hvs => List.forall_mem_cons.mpr ⟨hv.isFlat, hvs.isFlat⟩

end

theorem IsType.typeNames {v : Value} {e : TypeExpr} (h : IsType v e) :
    Entity.typeNames v = .ok e.names := by
  obtain ⟨w, hw, htext⟩ := h.typeText
  have htruthy := truthy_of_asText? htext e.text_ne_nil
  rw [Entity.typeNames, hw]
  simp only [bind, Except.bind, htruthy, if_true, htext, TypeExpr.names_text h.isFlat]
  rfl

theorem IsType.truthy {v : Value} {e : TypeExpr} (h : IsType v e) : v.truthy = true := by
  cases h with
  | @name _ n hname => exact truthy_of_asText? hname n.text_ne
  | @parts es n _ hname _ _ =>
    cases es with
    | nil => simp [Value.get, Entries.get?, Value.asText?] at hname
    | cons entry es => rfl

theorem typeNames_of_not_truthy {v : Value} (h : v.truthy = false) : typeNames v = .ok [] := by
  obtain ⟨w, hw, hfalse⟩ : ∃ w, typeText v = .ok w ∧ w.truthy = false := by
    have hdisplay : Value.truthy (.text v.displayTrue) = false := by
      rw [Value.displayTrue, if_neg (by simp [h])]
      rfl
    cases v with
    | dict es =>
      obtain rfl : es = [] := by simpa [Value.truthy] using h
      exact ⟨_, rfl, rfl⟩
    | text t | markup t => exact ⟨_, rfl, h⟩
    | _ => exact ⟨_, rfl, hdisplay⟩
  rw [typeNames, hw]
  simp only [bind, Except.bind, hfalse, Bool.false_eq_true, if_false]
  rfl

/-- The type of a property is a structured one, or it is left out. -/
def IsTyped (property : Value) : Prop :=
  (property.get "type").truthy = false ∨ ∃ e, IsType (property.get "type") e

theorem IsTyped.typeNames {property : Value} (h : IsTyped property) :
    ∃ names, Entity.typeNames (property.get "type") = .ok names ∧
      ∀ name, name ∈ names ↔ ∃ e, IsType (property.get "type") e ∧ name ∈ e.names := by
  rcases h with hfalse | ⟨e, he⟩
  · refine ⟨[], typeNames_of_not_truthy hfalse, fun name => ⟨nofun, ?_⟩⟩
    rintro ⟨e, he, -⟩
    rw [he.truthy] at hfalse
    exact absurd hfalse (by decide)
  · refine ⟨e.names, he.typeNames, fun name => ⟨fun hname => ⟨e, he, hname⟩, ?_⟩⟩
    rintro ⟨other, hother, hname⟩
    have heq : other.names = e.names := Except.ok.inj (hother.typeNames.symm.trans he.typeNames)
    exact heq ▸ hname

/-- The value is a mapping with the name somewhere in its type. -/
inductive Mentions (name : Text) : Value → Prop
  | intro {es : Entries} {e : TypeExpr} :
      IsType ((Value.dict es).get "type") e → name ∈ e.names → Mentions name (.dict es)

/-- The search stops at a property with the name in its type, and goes over any other. -/
theorem anyProperty_cons (name : Text) {property : Value} (rest : List Value)
    (h : ∀ es, property = .dict es → IsTyped property) :
    Mentions name property ∧ anyProperty name (property :: rest) = .ok true ∨
      ¬ Mentions name property ∧ anyProperty name (property :: rest) = anyProperty name rest := by
  cases property with
  | dict es =>
    obtain ⟨names, hnames, hmem⟩ := (h es rfl).typeNames
    by_cases hname : name ∈ names
    · left
      obtain ⟨e, he, hne⟩ := (hmem name).mp hname
      refine ⟨.intro he hne, ?_⟩
      rw [anyProperty, hnames]
      simp only [bind, Except.bind, List.contains_iff_mem, hname, if_true]
      rfl
    · right
      constructor
      · rintro ⟨he, hne⟩
        exact hname ((hmem name).mpr ⟨_, he, hne⟩)
      · rw [anyProperty, hnames]
        simp only [bind, Except.bind, List.contains_iff_mem, hname, if_false]
  | _ => exact Or.inr ⟨nofun, rfl⟩

theorem anyProperty_eq (name : Text) {properties : List Value}
    (h : ∀ es, .dict es ∈ properties → IsTyped (.dict es)) :
    ∃ found, anyProperty name properties = .ok found ∧
      (found = true ↔ ∃ property ∈ properties, Mentions name property) := by
  induction properties with
  | nil => exact ⟨false, rfl, by simp⟩
  | cons property rest ih =>
    have hproperty : ∀ es, property = .dict es → IsTyped property := by
      rintro es rfl
      exact h es (by simp)
    obtain ⟨found, hfound, hiff⟩ := ih fun es hes => h es (List.mem_cons_of_mem property hes)
    rcases anyProperty_cons name rest hproperty with ⟨hmention, hany⟩ | ⟨hmention, hany⟩
    · exact ⟨true, hany, by simp [hmention]⟩
    · exact ⟨found, hany.trans hfound, by simp [hiff, hmention]⟩

/-- The properties that an entity lists. -/
def properties (entity : Value) : List Value :=
  (entity.get "properties").iteratePresent.toOption.getD []

/-- What is written for a structured type is read as the names in it, an outer one in front of those in
its arguments. So an entity refers to a name just if it is a data type and some mapping among its
properties has the name in its type; the search fails only for properties that cannot be gone through. -/
theorem hasTypeReference_iff :
    (∀ v e, IsType v e → typeNames v = .ok e.names) ∧
    ∀ entity, (∀ es, .dict es ∈ properties entity → IsTyped (.dict es)) → ∀ name,
      (hasTypeReference name entity = .ok true ↔
        isOf "datatype" entity = true ∧ ∃ property ∈ properties entity, Mentions name property) ∧
      ∀ fault, hasTypeReference name entity = .error fault →
        (entity.get "properties").iteratePresent = .error fault := by
  refine ⟨fun v e h => h.typeNames, fun entity htyped name => ?_⟩
  rw [hasTypeReference]
  cases hsort : isOf "datatype" entity with
  | false => simp [pure, Except.pure]
  | true =>
    cases hlist : (entity.get "properties").iteratePresent with
    | error fault =>
      have hnone : properties entity = [] := by rw [properties, hlist]; rfl
      simp [hnone, bind, Except.bind]
    | ok items =>
      have hitems : properties entity = items := by rw [properties, hlist]; rfl
      rw [hitems] at htyped ⊢
      obtain ⟨found, hfound, hiff⟩ := anyProperty_eq name htyped
      simp [bind, Except.bind, hfound, hiff]

/-- The type `Map<string,Order[]>`. -/
def orderMap : Value :=
  .dict [(.text "name", .text "Map"), (.text "generics", .list [.text "string",
    .dict [(.text "list", .bool true), (.text "name", .text "Order")]])]

/-- Properties of a plain type, of a structured one and of none. -/
def orderProperties : List Value :=
  [.dict [(.text "name", .text "id"), (.text "type", .text "Id")], .text "note",
    .dict [(.text "type", orderMap)], .dict [(.text "name", .text "any")]]

def orderBook : Value :=
  .dict [(.text "type", .text "datatype"), (.text "properties", .list orderProperties)]

theorem hasTypeReference_iff_orderBook :
    (∀ es, .dict es ∈ properties orderBook → IsTyped (.dict es)) ∧
      typeNames orderMap = .ok (["Map", "string", "Order"].map String.toList) ∧
      hasTypeReference "Order" orderBook = .ok true := by
  let id : TypeName := ⟨"Id", by decide, by decide, by decide⟩
  let map : TypeName := ⟨"Map", by decide, by decide, by decide⟩
  let string : TypeName := ⟨"string", by decide, by decide, by decide⟩
  let order : TypeName := ⟨"Order", by decide, by decide, by decide⟩
  have hid : IsType (.text "Id") (.name id) := .name rfl
  have hstring : IsType (.text "string") (.name string) := .name rfl
  have horder : IsType (.dict [(.text "list", .bool true), (.text "name", .text "Order")])
      (.ofParts order [] true) := .parts rfl (fun h => absurd rfl h) (.none rfl)
  have hmap : IsType orderMap (.ofParts map [.name string, .ofParts order [] true] false) :=
    .parts rfl (fun _ => rfl) (.list (.cons hstring (.cons horder .nil)))
  have hlist : properties orderBook = orderProperties := rfl
  have htyped : ∀ es, .dict es ∈ properties orderBook → IsTyped (.dict es) := by
    intro es hes
    simp only [hlist, orderProperties, List.mem_cons, List.not_mem_nil, or_false] at hes
    rcases hes with heq | heq | heq | heq <;> cases heq
    · exact Or.inr ⟨_, hid⟩
    · exact Or.inr ⟨_, hmap⟩
    · exact Or.inl rfl
  obtain ⟨hnames, hreference⟩ := hasTypeReference_iff
  obtain ⟨hfound, -⟩ := hreference orderBook htyped "Order"
  refine ⟨htyped, hnames _ _ hmap, hfound.mpr ⟨rfl, .dict [(.text "type", orderMap)], ?_, ?_⟩⟩
  · simp [hlist, orderProperties]
  · exact .intro hmap (by decide)

end Entity

end Stencil

import Stencil.Language.Call
import Stencil.Proofs.Helper.Switches
import Stencil.Proofs.Text.Beginning
import Stencil.Proofs.Value.Entries
import Stencil.Proofs.Value.Fields

namespace Stencil

open Text

/-- The name of no type, or `void` in whatever letters. -/
def IsVoid (name : Text) : Prop :=
  name = [] ∨ lower name = "void"

instance (name : Text) : Decidable (IsVoid name) :=
  inferInstanceAs (Decidable (_ ∨ _))

theorem lower_returnType_iff (v : Value) :
    lower (Language.plain.returnType v) = "void" ↔ IsVoid (typeName v) := by
  have hvoid : lower "void" = "void".toList := rfl
  have hprinted : Language.plain.returnType v =
      if typeName v = [] then "void".toList else upperFirst (typeName v) := by
    cases htruthy : v.truthy with
    | true => simp [Language.returnType, htruthy, Language.type, Language.typeNamed]
    | false => simp [Language.returnType, htruthy, typeName_of_not_truthy htruthy]
  rw [hprinted]
  by_cases hname : typeName v = []
  · rw [if_pos hname]
    exact iff_of_true hvoid (Or.inl hname)
  · rw [if_neg hname, IsVoid, or_iff_right hname]
    exact lower_upperFirst_eq_cons_iff (s := "oid")

/-- Of three names one is picked with the second and one without it. -/
theorem isVoid_pick_iff (r d t : Text) :
    (¬ IsVoid (if r = [] then t else r) ↔
      ¬ IsVoid (if (if r = [] then d else r) = [] then t else if r = [] then d else r)) ↔
    r ≠ [] ∨ d = [] ∨ (IsVoid d ↔ IsVoid t) := by
  by_cases hr : r = []
  · by_cases hd : d = []
    · simp [hr, hd]
    · rw [if_pos hr, if_pos hr, if_neg hd, not_iff_not]
      constructor
      · intro h
        exact Or.inr (Or.inr h.symm)
      · rintro (hne | hnil | h)
        · exact absurd hr hne
        · exact absurd hnil hd
        · exact h.symm
  · simp [hr]

/-- A text, or a mapping that has no field `name` and nothing but texts under the fields that name its
type. -/
inductive IsTypeLike : Value → Prop
  | text {v : Value} {t : Text} : v.asText? = some t → IsTypeLike v
  | mapping {es : Entries} : es.get? (.text "name") = none →
      (∀ field ∈ ["ref".toList, "$ref".toList, "type".toList], ∀ w ∈ es.get? (.text field),
        w.asText?.isSome = true) → IsTypeLike (.dict es)

variable {v : Value} {es : Entries}

namespace Helper

theorem isValueType_iff (h : (valueTypeName v).IsTextual) :
    isValueType v = true ↔ ¬ IsVoid (valueTypeName v).ownText := by
  simp only [isValueType, Bool.and_eq_true, decide_eq_true_eq]
  constructor
  · rintro ⟨htruthy, hlower⟩ (hnone | hvoid)
    · exact h.truthy_iff.mp htruthy hnone
    · rw [h.display_of_truthy htruthy] at hlower
      exact hlower hvoid
  · intro hnot
    have htruthy := h.truthy_iff.mpr fun hnone => hnot (Or.inl hnone)
    refine ⟨htruthy, fun hlower => hnot (Or.inr ?_)⟩
    rwa [h.display_of_truthy htruthy] at hlower

theorem valueTypeName_of_no_name (h : es.get? (.text "name") = none) :
    valueTypeName (.dict es) =
      ((Value.dict es).get "ref").orElse ((Value.dict es).get "type") := by
  rw [valueTypeName, Value.get_of_missing h]
  rfl

/-- The helper and the type that is printed agree, unless the field `$ref` is what the type is printed
of and one of the fields `$ref` and `type` stands for a value and the other for none. -/
theorem isValueType_agrees_iff (h : IsTypeLike v) :
    (isValueType v = true ↔ lower (Language.plain.returnType v) ≠ "void") ↔
      (v.get "ref").ownText ≠ [] ∨ (v.get "$ref").ownText = [] ∨
        (IsVoid (v.get "$ref").ownText ↔ IsVoid (v.get "type").ownText) := by
  rw [ne_eq, lower_returnType_iff]
  cases h with
  | @text _ t htext =>
    have hself : valueTypeName v = v := by
      rcases Value.eq_of_asText? htext with rfl | rfl
      · rfl
      · rfl
    have hname : typeName v = v.ownText := by
      rcases Value.eq_of_asText? htext with rfl | rfl
      · cases t <;> rfl
      · cases t <;> rfl
    have htextual : (valueTypeName v).IsTextual := by
      rw [hself]
      exact Value.isTextual_of_asText? htext
    rw [isValueType_iff htextual, hself, hname, Value.ownText_get_of_asText? htext "$ref"]
    simp
  | @mapping es hname hfields =>
    have href := Value.isTextual_get (hfields "ref".toList (by simp))
    have hdollar := Value.isTextual_get (hfields "$ref".toList (by simp))
    have htype := Value.isTextual_get (hfields "type".toList (by simp))
    have hvalue := valueTypeName_of_no_name hname
    have htextual : (valueTypeName (.dict es)).IsTextual := by
      rw [hvalue]
      exact href.orElse htype
    rw [isValueType_iff htextual, hvalue, href.ownText_orElse, typeName_dict,
      (href.orElse hdollar).ownText_orElse, href.ownText_orElse]
    exact isVoid_pick_iff _ _ _

variable {s : Session}

theorem run_ifValueType (e : Engine) (data : Value) (b : Option Block) :
    (callNamed e data "ifValueType" ⟨[v], [], b⟩).run s =
      (blockOrFlag (isValueType (s.store.resolve v)) b).run s := by
  have hcall : callNamed e data "ifValueType" ⟨[v], [], b⟩ = ifValueType v b := by
    cases b <;> rfl
  rw [hcall, ifValueType, Act.run_bind_ok _ (Act.run_resolve v s)]

theorem run_returnType (e : Engine) (data : Value) :
    (callNamed e data "returnType" ⟨[v], [], none⟩).run s =
      (.ok (.markup (e.language.returnType (plain (s.store.resolve v)))), s) := by
  have hcall : callNamed e data "returnType" ⟨[v], [], none⟩ =
      (do return .markup (e.language.returnType (plain (← Act.resolve v)))) := rfl
  rw [hcall, Act.run_bind_ok _ (Act.run_resolve v s), Act.run_pure]

theorem plain_of_isTypeLike (h : IsTypeLike v) : plain v = v := by
  cases h with
  | text htext =>
    rcases Value.eq_of_asText? htext with rfl | rfl
    · rfl
    · rfl
  | mapping => rfl

/-- The helper asks whether there is a type of a value, and the formatter prints one: the two agree on
a text, and on a mapping just if it has a text under `ref`, none under `$ref`, or under `$ref` and
`type` names that both stand for a value or both for none. -/
theorem ifValueType_agrees_iff (h : IsTypeLike (s.store.resolve v)) (e : Engine) (data : Value) :
    ∃ (answer : Bool) (printed : Text),
      (∀ b, (callNamed e data "ifValueType" ⟨[v], [], b⟩).run s = (blockOrFlag answer b).run s) ∧
      Language.plain.call "return_type" [s.store.resolve v] = .ok (.text printed) ∧
      (callNamed { e with language := .plain } data "returnType" ⟨[v], [], none⟩).run s =
        (.ok (.markup printed), s) ∧
      ((answer = true ↔ lower printed ≠ "void") ↔
        ((s.store.resolve v).get "ref").ownText ≠ [] ∨
        ((s.store.resolve v).get "$ref").ownText = [] ∨
        (IsVoid ((s.store.resolve v).get "$ref").ownText ↔
          IsVoid ((s.store.resolve v).get "type").ownText)) := by
  refine ⟨_, _, run_ifValueType e data, rfl, ?_, isValueType_agrees_iff h⟩
  have hrun := run_returnType (v := v) (s := s) { e with language := .plain } data
  rwa [plain_of_isTypeLike h] at hrun

/-- A type under `$ref` that stands for no value, with an empty one beside it. -/
def voidReference : Value :=
  .dict [(.text "$ref", .text "VOID"), (.text "type", .markup [])]

theorem ifValueType_agrees_iff_voidReference :
    IsTypeLike (Store.resolve {} voidReference) ∧
      (callNamed { context := .null } .null "ifValueType" ⟨[voidReference], [], none⟩).run {} =
        (.ok (.bool false), {}) ∧
      Language.plain.call "return_type" [voidReference] = .ok (.text "VOID") ∧
      (false = true ↔ lower "VOID" ≠ "void") := by
  have hlike : IsTypeLike (Store.resolve {} voidReference) := .mapping rfl (by decide)
  obtain ⟨answer, printed, hanswer, hprinted, -, hagree⟩ :=
    ifValueType_agrees_iff (s := {}) hlike { context := .null } .null
  have hrun : (callNamed { context := .null } .null "ifValueType"
      ⟨[voidReference], [], none⟩).run {} = (.ok (.bool false), {}) := rfl
  have hflag := (hanswer none).symm.trans hrun
  cases answer with
  | true => cases hflag
  | false =>
    have hcall : Language.plain.call "return_type" [voidReference] = .ok (.text "VOID") := rfl
    cases hprinted.symm.trans hcall
    exact ⟨hlike, hrun, hcall, hagree.mpr (Or.inr (Or.inr (by decide)))⟩

/-- For a type under `$ref` alone the helper says that there is none, and the formatter prints it. -/
theorem ifValueType_dollarRef :
    IsTypeLike (.dict [(.text "$ref", .text "Foo")]) ∧
      (callNamed { context := .null } .null "ifValueType"
        ⟨[.dict [(.text "$ref", .text "Foo")]], [], none⟩).run {} = (.ok (.bool false), {}) ∧
      Language.plain.call "return_type" [.dict [(.text "$ref", .text "Foo")]] =
        .ok (.text "Foo") ∧
      ¬ (false = true ↔ lower "Foo" ≠ "void") := by
  exact ⟨.mapping rfl (by decide), rfl, rfl, by decide⟩

end Helper

end Stencil

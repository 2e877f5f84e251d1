import Stencil.Proofs.Reference.Discovery
import Stencil.Proofs.Value.Fields

namespace Stencil

namespace Value

variable {v : Value} {t : Text}

theorem ownText_eq_iff (ht : t ≠ []) : v.ownText = t ↔ v.asText? = some t := by
  constructor
  · intro h
    rw [← h] at ht ⊢
    exact asText?_of_ownText_ne ht
  · exact ownText_of_asText?

theorem ownText_orElse_null (v : Value) : (v.orElse .null).ownText = v.ownText := by
  unfold Value.orElse
  split
  next => rfl
  next htruthy =>
    rw [Bool.not_eq_true] at htruthy
    exact (ownText_of_not_truthy htruthy).symm

end Value

namespace Reference

variable {v w : Value} {es : Entries} {r : Text}

theorem refOf?_eq (es : Entries) :
    refOf? es = ((Value.dict es).get "ref").asText?.or ((Value.dict es).get "$ref").asText? := by
  have hfield : ∀ field : Text,
      (es.get? (.text field)).bind Value.asText? = ((Value.dict es).get field).asText? := by
    intro field
    rw [Value.get]
    cases es.get? (.text field) <;> rfl
  rw [refOf?, hfield, hfield]
  cases ((Value.dict es).get "ref").asText? <;> rfl

theorem typeName_of_no_type (h : es.get? (.text "type") = none) :
    typeName (.dict es) =
      (((Value.dict es).get "ref").orElse ((Value.dict es).get "$ref")).ownText := by
  rw [typeName_dict, Value.get_of_missing h, Value.ownText_orElse_null]

theorem names_nil : names [] = [] := by
  rw [names]
  rfl

theorem hasReference_of_refOf? (h : refOf? es = some r) (name : Text) :
    hasReference name (.dict es) = true ↔ name ∈ names r := by
  rw [hasReference, h]
  exact List.contains_iff_mem

/-- An empty text in front hides the second value from the search for a text. -/
theorem picks_of_empty (hv : v.asText? = some []) :
    (v.orElse w).ownText = w.ownText ∧ v.asText?.or w.asText? = some [] := by
  have hfalse : ¬ v.truthy = true := by
    rcases Value.eq_of_asText? hv with rfl | rfl
    · exact Bool.false_ne_true
    · exact Bool.false_ne_true
  rw [Value.orElse, if_neg hfalse, hv]
  exact ⟨rfl, rfl⟩

/-- A true value in front that is no text hides the second value from the search for a true one. -/
theorem picks_of_truthy (hv : v.asText? = none) (htruthy : v.truthy = true) :
    (v.orElse w).ownText = [] ∧ v.asText?.or w.asText? = w.asText? := by
  rw [Value.orElse, if_pos htruthy, Value.ownText, hv]
  exact ⟨rfl, rfl⟩

theorem picks_of_not_truthy (hv : v.asText? = none) (hfalse : v.truthy = false) :
    (v.orElse w).ownText = w.ownText ∧ v.asText?.or w.asText? = w.asText? := by
  rw [Value.orElse, if_neg (by simp [hfalse]), hv]
  exact ⟨rfl, rfl⟩

theorem picks_of_ownText_ne (hv : v.ownText ≠ []) :
    (v.orElse w).ownText = v.ownText ∧ v.asText?.or w.asText? = some v.ownText := by
  rw [Value.orElse, if_pos (Value.truthy_of_ownText_ne hv), Value.asText?_of_ownText_ne hv]
  exact ⟨rfl, rfl⟩

/-- The first true value and the first text are the same text, unless the second value has one and is
hidden from one of the two. -/
theorem picks_agree_iff (v w : Value) :
    (∀ r, r ≠ [] → ((v.orElse w).ownText = r ↔ v.asText?.or w.asText? = some r)) ↔
      (w.ownText ≠ [] → v.ownText ≠ [] ∨ v.asText? = none ∧ v.truthy = false) := by
  by_cases hv : v.ownText = []
  · rw [or_iff_right (not_not_intro hv)]
    cases htext : v.asText? with
    | some t =>
      obtain rfl : t = [] := (Value.ownText_of_asText? htext).symm.trans hv
      obtain ⟨hname, hfound⟩ := picks_of_empty (w := w) htext
      rw [htext] at hfound
      rw [hname, hfound, imp_iff_not (by simp), ne_eq, Classical.not_not]
      constructor
      · intro h
        by_cases hw : w.ownText = []
        · exact hw
        · exact (Option.some.inj ((h w.ownText hw).mp rfl)).symm
      · intro hw r _
        rw [hw, Option.some.injEq]
    | none =>
      cases htruthy : v.truthy with
      | true =>
        obtain ⟨hname, hfound⟩ := picks_of_truthy (w := w) htext htruthy
        rw [htext] at hfound
        rw [hname, hfound, imp_iff_not (by simp), ne_eq, Classical.not_not]
        constructor
        · intro h
          by_cases hw : w.ownText = []
          · exact hw
          · exact ((h w.ownText hw).mpr (Value.asText?_of_ownText_ne hw)).symm
        · intro hw r hr
          rw [← Value.ownText_eq_iff hr, hw]
      | false =>
        obtain ⟨hname, hfound⟩ := picks_of_not_truthy (w := w) htext htruthy
        rw [htext] at hfound
        rw [hname, hfound]
        exact iff_of_true (fun r hr => Value.ownText_eq_iff hr) fun _ => ⟨rfl, rfl⟩
  · obtain ⟨hname, hfound⟩ := picks_of_ownText_ne (w := w) hv
    rw [hname, hfound]
    refine iff_of_true ?_ fun _ => Or.inl hv
    intro r _
    rw [Option.some.injEq]

/-- A mapping without a field `type` is named by what the search takes it as a reference to, unless
there is a text under `$ref` and something under `ref` that hides it from one of the two: behind an
empty text it is the name, and the search finds nothing; behind a true value that is no text the
search finds it, and there is no name. -/
theorem typeName_agrees_iff (h : es.get? (.text "type") = none) :
    (((∀ r, r ≠ [] → (typeName (.dict es) = r ↔ refOf? es = some r)) ∧
        (typeName (.dict es) ≠ [] → ∀ name,
          hasReference name (.dict es) = true ↔ name ∈ names (typeName (.dict es)))) ↔
      (((Value.dict es).get "$ref").ownText ≠ [] → ((Value.dict es).get "ref").ownText ≠ [] ∨
        ((Value.dict es).get "ref").asText? = none ∧ ((Value.dict es).get "ref").truthy = false)) ∧
    (((Value.dict es).get "ref").asText? = some [] →
      typeName (.dict es) = ((Value.dict es).get "$ref").ownText ∧
        ∀ name, hasReference name (.dict es) = false) ∧
    (((Value.dict es).get "ref").asText? = none → ((Value.dict es).get "ref").truthy = true →
      typeName (.dict es) = [] ∧ refOf? es = ((Value.dict es).get "$ref").asText?) := by
  have hfollows : (∀ r, r ≠ [] → (typeName (.dict es) = r ↔ refOf? es = some r)) →
      typeName (.dict es) ≠ [] → ∀ name,
        hasReference name (.dict es) = true ↔ name ∈ names (typeName (.dict es)) := by
    intro hpick hne name
    exact hasReference_of_refOf? ((hpick _ hne).mp rfl) name
  rw [and_iff_left_of_imp hfollows, typeName_of_no_type h, refOf?_eq]
  refine ⟨picks_agree_iff _ _, ?_, picks_of_truthy⟩
  intro hempty
  obtain ⟨hname, hfound⟩ := picks_of_empty (w := (Value.dict es).get "$ref") hempty
  refine ⟨hname, fun name => ?_⟩
  rw [← refOf?_eq] at hfound
  rw [← Bool.not_eq_true, hasReference_of_refOf? hfound, names_nil]
  exact List.not_mem_nil

/-- A mapping with nothing under `ref`. -/
def listedReference : Entries :=
  [(.text "ref", .null), (.text "list", .bool true), (.text "$ref", .text "Map<Foo,Bar[]>")]

theorem typeName_agrees_iff_listedReference :
    Entries.get? (.text "type") listedReference = none ∧
      refOf? listedReference = some (typeName (.dict listedReference)) ∧
      hasReference "Bar" (.dict listedReference) = true := by
  have htype : Entries.get? (.text "type") listedReference = none := rfl
  obtain ⟨hagree, -, -⟩ := typeName_agrees_iff htype
  obtain ⟨hpick, hfound⟩ := hagree.mpr fun _ => Or.inr ⟨rfl, rfl⟩
  have hne : typeName (.dict listedReference) ≠ [] := by decide
  exact ⟨htype, (hpick _ hne).mp rfl, (hfound hne "Bar").mpr (by decide +kernel)⟩

/-- Behind an empty text the type `Foo` is printed and not found; behind a number it is found and not
printed. -/
theorem typeName_hidden_dollarRef :
    (typeName (.dict [(.text "ref", .text []), (.text "$ref", .text "Foo")]) = "Foo".toList ∧
      "Foo".toList ∈ names "Foo" ∧
      hasReference "Foo" (.dict [(.text "ref", .text []), (.text "$ref", .text "Foo")]) = false) ∧
    refOf? [(.text "ref", .int 5), (.text "$ref", .text "Foo")] = some "Foo".toList ∧
      typeName (.dict [(.text "ref", .int 5), (.text "$ref", .text "Foo")]) = [] := by
  refine ⟨⟨by decide, by decide +kernel, ?_⟩, by decide, by decide⟩
  have hempty : refOf? [(.text "ref", .text []), (.text "$ref", .text "Foo")] = some [] := rfl
  rw [← Bool.not_eq_true, hasReference_of_refOf? hempty, names_nil]
  exact List.not_mem_nil

end Reference

end Stencil

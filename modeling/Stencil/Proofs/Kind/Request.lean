import Stencil.Proofs.Kind.Comparison

namespace Stencil.Kind

open Text (IsAscii isMark_colon isMark_star)

/-- A text without the first protocol in it. -/
def withoutProtocol (t : Text) : Text :=
  (Text.partition protocol t).1 ++ (Text.partition protocol t).2

/-- A colon stands in a request besides that of a protocol. -/
def AsksVersion (r : Text) : Prop :=
  ':' ∈ withoutProtocol (Text.lower r)

instance (r : Text) : Decidable (AsksVersion r) :=
  inferInstanceAs (Decidable (':' ∈ _))

theorem Request.ofLower_star (start : Text) :
    Request.ofLower (start ++ ['*']) = .starting ((Text.after? protocol start).getD start) := by
  have hend : Text.endsWith "*" (start ++ ['*']) = true :=
    List.isSuffixOf_iff_suffix.mpr (List.suffix_append _ _)
  rw [Request.ofLower, if_pos hend, List.dropLast_concat]

theorem Request.ofLower_of_not_starred {t : Text} (hstar : ¬ ['*'] <:+ t) :
    Request.ofLower t =
      if ':' ∈ withoutProtocol t then .exactly (Kind.parse t).normalized
      else .named (Kind.parse t).fullName := by
  have hend : ¬ Text.endsWith "*" t = true := mt List.isSuffixOf_iff_suffix.mp hstar
  rw [Request.ofLower, if_neg hend]
  by_cases h : ':' ∈ withoutProtocol t
  · rw [if_pos h]
    exact if_pos (List.contains_iff_mem.mpr h)
  · rw [if_neg h]
    exact if_neg (mt List.contains_iff_mem.mp h)

theorem Request.parse_of_not_starred {r : Text} (hr : IsAscii r) (hstar : ¬ ['*'] <:+ r) :
    Request.parse r =
      if AsksVersion r then .exactly (Kind.parse r).lowered.normalized
      else .named (Kind.parse r).lowered.fullName := by
  rw [Request.parse, ofLower_of_not_starred (mt (hr.singleton_suffix_lower isMark_star).mp hstar),
    Kind.parse_lower hr]
  rfl

section

variable {r k : Text} {resource : Value} (hr : IsAscii r) (hstar : ¬ ['*'] <:+ r) (hk : IsAscii k)
  (hkind : (resource.read "kind").asText? = some k)

include hkind

theorem ofResource?_eq : ofResource? resource = if k = [] then none else some k := by
  have htruthy : resource.truthy = true := by
    cases resource with
    | dict es =>
      cases es with
      | nil => simp [Value.read, Entries.get?, Value.asText?] at hkind
      | cons e es => rfl
    | object es => rfl
    | _ => simp [Value.read, Value.asText?] at hkind
  rw [ofResource?, if_pos htruthy, hkind]
  cases k <;> rfl

theorem isMatch_iff_admits :
    isMatch r resource = true ↔ k ≠ [] ∧ (Request.parse r).admits (parse k) = true := by
  rw [isMatch, ofResource?_eq hkind]
  by_cases hk : k = []
  · simp [hk]
  · simp [hk]

include hr hstar hk

/-- A request for a version selects the kinds that have its parts in small letters. -/
theorem isMatch_iff_of_asksVersion (h : AsksVersion r) :
    isMatch r resource = true ↔ k ≠ [] ∧ (parse r).lowered = (parse k).lowered := by
  have hplain := isPlain_parse hr
  rw [isMatch_iff_admits hkind, Request.parse_of_not_starred hr hstar, if_pos h, Request.admits,
    decide_eq_true_eq, normalized_eq_iff hplain.lowered (isPlain_parse hk), hplain.lowered_lowered]

/-- Any other request selects the kinds with its handle and name, or those that lack one of them if
it lacks one itself. -/
theorem isMatch_iff_of_not_asksVersion (h : ¬ AsksVersion r) :
    isMatch r resource = true ↔ k ≠ [] ∧
      ((parse r).IsNamed ∧ (parse r).HasNameOf (parse k) ∨
        ¬ (parse r).IsNamed ∧ ¬ (parse k).IsNamed) := by
  have hplain := isPlain_parse hr
  rw [isMatch_iff_admits hkind, Request.parse_of_not_starred hr hstar, if_neg h, Request.admits,
    decide_eq_true_eq, hplain.fullName_lowered, fullName_eq_iff hplain (isPlain_parse hk)]

/-- A request selects no resource of another handle or name, unless it asks for no version and both the
request and the kind lack a handle or a name. In that case it selects the resource, whatever its kind. -/
theorem isMatch_same_name_or_unnamed :
    (isMatch r resource = true → (parse r).HasNameOf (parse k) ∨
      ¬ AsksVersion r ∧ ¬ (parse r).IsNamed ∧ ¬ (parse k).IsNamed) ∧
    (k ≠ [] → ¬ AsksVersion r → ¬ (parse r).IsNamed → ¬ (parse k).IsNamed →
      isMatch r resource = true) := by
  constructor
  · intro hmatch
    by_cases h : AsksVersion r
    · obtain ⟨-, heq⟩ := (isMatch_iff_of_asksVersion hr hstar hk hkind h).mp hmatch
      exact Or.inl ⟨congrArg Kind.handle heq, congrArg Kind.name heq⟩
    · obtain ⟨-, ⟨-, hname⟩ | hunnamed⟩ :=
        (isMatch_iff_of_not_asksVersion hr hstar hk hkind h).mp hmatch
      · exact Or.inl hname
      · exact Or.inr ⟨h, hunnamed⟩
  · intro hne h hrequest hunnamed
    exact (isMatch_iff_of_not_asksVersion hr hstar hk hkind h).mpr
      ⟨hne, Or.inr ⟨hrequest, hunnamed⟩⟩

end

/-- A resource with a kind. -/
def resourceOf (kind : Text) : Value :=
  .dict [(.text "kind", .text kind)]

theorem isMatch_same_name_or_unnamed_spaced :
    IsAscii "KAPETA://acme/Web" ∧ ¬ ['*'] <:+ ("KAPETA://acme/Web" : Text) ∧
      IsAscii " Acme/web:1.0 " ∧
      isMatch "KAPETA://acme/Web" (resourceOf " Acme/web:1.0 ") = true ∧
      (parse "KAPETA://acme/Web").HasNameOf (parse " Acme/web:1.0 ") := by
  have hr : IsAscii "KAPETA://acme/Web" := by decide
  have hstar : ¬ ['*'] <:+ ("KAPETA://acme/Web" : Text) := by decide
  have hk : IsAscii " Acme/web:1.0 " := by decide
  have hmatch : isMatch "KAPETA://acme/Web" (resourceOf " Acme/web:1.0 ") = true := by
    decide +kernel
  have hkind : ((resourceOf " Acme/web:1.0 ").read "kind").asText? = some " Acme/web:1.0 " := rfl
  obtain ⟨hname, -⟩ := isMatch_same_name_or_unnamed hr hstar hk hkind
  exact ⟨hr, hstar, hk, hmatch, (hname hmatch).resolve_right (by decide +kernel)⟩

/-- A request without a handle selects a resource of any other name without one. -/
theorem isMatch_other_name :
    IsAscii "mysql" ∧ ¬ ['*'] <:+ ("mysql" : Text) ∧ IsAscii "postgres:14" ∧
      isMatch "mysql" (resourceOf "postgres:14") = true ∧
      ¬ (parse "mysql").HasNameOf (parse "postgres:14") := by
  decide +kernel

end Stencil.Kind

import Stencil.Json.Parser
import Stencil.Proofs.Value.Entries

namespace Stencil.Json

variable {t rest : Text} {v : Value} {es : Entries} {n : Nat} {negative : Bool}

theorem entries?_of_unsigned? (h : unsigned? negative t = some (v, rest)) : v.entries? = none := by
  obtain ⟨⟨whole, behind⟩, -, h⟩ := Option.bind_eq_some_iff.mp h
  simp only at h
  split at h
  next =>
    cases Option.some.inj h
    rfl
  next =>
    split at h <;>
    · cases Option.some.inj h
      rfl

theorem entries?_of_scalar? (h : scalar? t = some (v, rest)) : v.entries? = none := by
  unfold scalar? at h
  split at h
  case h_7 =>
    split at h
    next => exact entries?_of_unsigned? h
    next => exact entries?_of_unsigned? h
  all_goals
    cases Option.some.inj h
    rfl

theorem text_of_members? (h : members? n t = some (es, rest)) :
    ∀ k ∈ es.map Prod.fst, ∃ s, k = .text s := by
  induction n generalizing t es rest with
  | zero => simp [members?] at h
  | succ n ih =>
    unfold members? at h
    split at h
    next inner =>
      split at h
      next => simp at h
      next name behind hname =>
        split at h
        next behind hcolon =>
          split at h
          next => simp at h
          next v behind hv =>
            split at h
            next =>
              cases Option.some.inj h
              intro k hk
              exact ⟨name, List.mem_singleton.mp hk⟩
            next more hmore =>
              obtain ⟨⟨others, last⟩, hothers, heq⟩ := Option.map_eq_some_iff.mp h
              cases heq
              intro k hk
              rcases List.mem_cons.mp hk with rfl | hk
              · exact ⟨name, rfl⟩
              · exact ih hothers k hk
            next => simp at h
        next => simp at h
    next => simp at h

theorem isObject_of_value? (h : value? n t = some (.dict es, rest)) : es.IsObject := by
  cases n with
  | zero => simp [value?] at h
  | succ n =>
    unfold value? at h
    split at h
    next =>
      obtain ⟨_, -, heq⟩ := Option.map_eq_some_iff.mp h
      cases heq
    next =>
      split at h
      next => cases Option.some.inj h
      next =>
        obtain ⟨_, -, heq⟩ := Option.map_eq_some_iff.mp h
        cases heq
    next =>
      split at h
      next =>
        cases Option.some.inj h
        exact Entries.isObject_nil
      next =>
        obtain ⟨⟨members, last⟩, hmembers, heq⟩ := Option.map_eq_some_iff.mp h
        cases heq
        exact Entries.isObject_ofList (text_of_members? hmembers)
    next => exact absurd (entries?_of_scalar? h) (by simp [Value.entries?])

theorem isObject_of_parse? (h : parse? t = some (.dict es)) : es.IsObject := by
  rw [parse?] at h
  split at h
  next v rest hv =>
    split at h
    next =>
      cases Option.some.inj h
      exact isObject_of_value? hv
    next => simp at h
  next => simp at h

end Stencil.Json

import Mathlib.Data.List.Induction
import Stencil.Proofs.Text.Order
import Stencil.Registry

namespace Stencil.Registry

section

variable {β : Type} {name other : Text} {v w : β} {entries : List (Text × β)}

theorem mem_of_mem_assign (h : (other, w) ∈ assign name v entries) :
    w = v ∨ (other, w) ∈ entries := by
  induction entries with
  | nil =>
    rw [assign, List.mem_singleton] at h
    exact Or.inl (Prod.mk.inj h).2
  | cons entry entries ih =>
    obtain ⟨key, old⟩ := entry
    rw [assign] at h
    split at h
    next =>
      rcases List.mem_cons.mp h with heq | hmem
      · exact Or.inl (Prod.mk.inj heq).2
      · exact Or.inr (List.mem_cons_of_mem _ hmem)
    next =>
      rcases List.mem_cons.mp h with heq | hmem
      · exact Or.inr (heq ▸ List.mem_cons_self)
      · exact (ih hmem).imp_right (List.mem_cons_of_mem _)

theorem mem_keys_assign :
    other ∈ (assign name v entries).map Prod.fst ↔
      other = name ∨ other ∈ entries.map Prod.fst := by
  induction entries with
  | nil => simp [assign]
  | cons entry entries ih =>
    obtain ⟨key, old⟩ := entry
    rw [assign]
    split
    next heq =>
      subst heq
      simp
    next =>
      rw [List.map_cons, List.mem_cons, ih, List.map_cons, List.mem_cons]
      exact or_left_comm

theorem mem_of_lookup (h : entries.lookup name = some v) : (name, v) ∈ entries := by
  obtain ⟨front, back, rfl, -⟩ := List.lookup_eq_some_iff.mp h
  exact List.mem_append_right _ List.mem_cons_self

end

variable {α : Type} {r : Registry α} {language name target : Text}

theorem mem_languages : language ∈ r.languages ↔ language ∈ r.formatters.map Prod.fst :=
  (Text.sorted_perm _).mem_iff

theorem isSome_lookup_formatters :
    (r.formatters.lookup language).isSome = true ↔ language ∈ r.languages := by
  rw [mem_languages]
  simp [List.lookup_isSome_iff]

section

variable {replace : Bool} {names : List Text}

theorem addAliases_formatters :
    (addAliases language replace names r).2.formatters = r.formatters := by
  fun_induction addAliases language replace names r with
  | case1 => rfl
  | case2 r name rest key hkey ih => exact ih
  | case3 => rfl
  | case4 r name rest key hkey hfree htarget ih => exact ih
  | case5 => rfl
  | case6 r name rest key hkey hfree htarget ih => exact ih

/-- Also if it stops at a conflict, adding aliases makes only some that point to the language. -/
theorem mem_of_mem_addAliases (h : (name, target) ∈ (addAliases language replace names r).2.aliases) :
    target = language ∨ (name, target) ∈ r.aliases := by
  fun_induction addAliases language replace names r with
  | case1 => exact Or.inr h
  | case2 r name rest key hkey ih => exact ih h
  | case3 => exact Or.inr h
  | case4 r name rest key hkey hfree htarget ih => exact (ih h).elim Or.inl mem_of_mem_assign
  | case5 => exact Or.inr h
  | case6 r name rest key hkey hfree htarget ih => exact (ih h).elim Or.inl mem_of_mem_assign

end

/-- Every alias points to a registered language. -/
def IsConsistent (r : Registry α) : Prop :=
  ∀ name target, (name, target) ∈ r.aliases → target ∈ r.languages

theorem isConsistent_empty : IsConsistent ({} : Registry α) := by
  intro name target h
  simp at h

theorem IsConsistent.register (h : r.IsConsistent) (language : Text) (formatter : Option α)
    (aliases : List Text) (replace : Bool) :
    (r.register language formatter aliases replace).2.IsConsistent := by
  cases formatter with
  | none => exact h
  | some f =>
    simp only [Registry.register]
    split
    next => exact h
    next =>
      intro name target hmem
      rw [mem_languages, addAliases_formatters, mem_keys_assign]
      rcases mem_of_mem_addAliases hmem with htarget | hold
      · exact Or.inl htarget
      · exact Or.inr (mem_languages.mp (h name target hold))

theorem IsConsistent.unregister (h : r.IsConsistent) (language : Text) :
    (r.unregister language).IsConsistent := by
  intro name target hmem
  obtain ⟨hold, hother⟩ := List.mem_filter.mp hmem
  obtain ⟨⟨key, f⟩, hf, rfl⟩ := List.mem_map.mp (mem_languages.mp (h name target hold))
  exact mem_languages.mpr (List.mem_map.mpr ⟨(key, f), List.mem_filter.mpr ⟨hf, hother⟩, rfl⟩)

/-- A call that may change a registry. -/
inductive Call (α : Type)
  | register (language : Text) (formatter : Option α) (aliases : List Text) (replace : Bool)
  | unregister (language : Text)

/-- The registry after a call. A registration that fails keeps what it has done before. -/
def step (r : Registry α) : Call α → Registry α
  | .register language formatter aliases replace =>
    (r.register language formatter aliases replace).2
  | .unregister language => r.unregister language

/-- The registry that calls make of the empty one. -/
def after (calls : List (Call α)) : Registry α :=
  calls.foldl step {}

theorem IsConsistent.step (h : r.IsConsistent) (c : Call α) : (r.step c).IsConsistent := by
  cases c with
  | register language formatter aliases replace => exact h.register language formatter aliases replace
  | unregister language => exact h.unregister language

theorem isConsistent_after (calls : List (Call α)) : (after calls).IsConsistent := by
  induction calls using List.reverseRecOn with
  | nil => exact isConsistent_empty
  | append_singleton calls c ih =>
    rw [after, List.foldl_append]
    exact ih.step c

theorem IsConsistent.get_of_supports (h : r.IsConsistent) (hname : r.supports name = true) :
    ∃ f, r.get name = .ok f := by
  cases hdirect : r.formatters.lookup (Text.lower name) with
  | some f => exact ⟨f, by simp [get, hdirect]⟩
  | none =>
    obtain ⟨target, hkey⟩ : ∃ target, r.aliases.lookup (Text.lower name) = some target := by
      simpa [supports, hdirect, Option.isSome_iff_exists] using hname
    have htarget := h _ _ (mem_of_lookup hkey)
    obtain ⟨f, hf⟩ := Option.isSome_iff_exists.mp (isSome_lookup_formatters.mpr htarget)
    exact ⟨f, by simp [get, hdirect, hkey, hf]⟩

theorem get_of_not_supports (hname : r.supports name = false) :
    r.get name = .error (.registry (.unknownLanguage name r.languages)) := by
  rw [supports, Bool.or_eq_false_iff, Option.isSome_eq_false_iff, Option.isSome_eq_false_iff,
    Option.isNone_iff_eq_none, Option.isNone_iff_eq_none] at hname
  simp [get, hname]

/-- After any calls, whether they have failed or not, every alias points to a registered language. A
name that is supported has a formatter, and any other is reported as unknown. -/
theorem get_found_or_unknown (calls : List (Call α)) :
    (∀ name target, (name, target) ∈ (after calls).aliases → target ∈ (after calls).languages) ∧
    ∀ name,
      ((after calls).supports name = true ∧ ∃ f, (after calls).get name = .ok f) ∨
      ((after calls).supports name = false ∧
        (after calls).get name =
          .error (.registry (.unknownLanguage name (after calls).languages))) := by
  have hconsistent := isConsistent_after calls
  refine ⟨hconsistent, fun name => ?_⟩
  cases hname : (after calls).supports name with
  | true => exact Or.inl ⟨rfl, hconsistent.get_of_supports hname⟩
  | false => exact Or.inr ⟨rfl, get_of_not_supports hname⟩

end Stencil.Registry

import Stencil.Proofs.Registry

namespace Stencil.Registry

section

variable {β : Type} {name other : Text} {v : β} {entries : List (Text × β)}

theorem lookup_assign :
    (assign name v entries).lookup other =
      if other = name then some v else entries.lookup other := by
  induction entries with
  | nil => by_cases h : other = name <;> simp [assign, List.lookup_cons, h, beq_eq_false_iff_ne.mpr]
  | cons entry entries ih =>
    obtain ⟨key, old⟩ := entry
    by_cases hname : name = key
    · subst hname
      by_cases h : other = name <;> simp [assign, List.lookup_cons, h, beq_eq_false_iff_ne.mpr]
    · by_cases h : other = key
      · subst h
        simp [assign, hname, Ne.symm hname]
      · simp [assign, List.lookup_cons, hname, beq_eq_false_iff_ne.mpr h, ih]

end

variable {α : Type} {r r' : Registry α} {language name key target : Text} {f : α}
  {fault : RegistryFault} {replace : Bool} {names : List Text}

theorem lookup_eq_none_iff : r.formatters.lookup language = none ↔ language ∉ r.languages := by
  rw [← isSome_lookup_formatters, Option.not_isSome_iff_eq_none]

/-- The formatter that a name in small letters leads to. -/
def find? (r : Registry α) (key : Text) : Option α :=
  (r.formatters.lookup key).or ((r.aliases.lookup key).bind fun target => r.formatters.lookup target)

theorem toOption_get : (r.get name).toOption = r.find? (Text.lower name) := by
  rw [get, find?]
  cases r.formatters.lookup (Text.lower name) with
  | some f => rfl
  | none =>
    cases r.aliases.lookup (Text.lower name) with
    | none => rfl
    | some target =>
      simp only [Option.none_or, Option.bind_some]
      cases r.formatters.lookup target <;> rfl

theorem get_eq_ok_iff : r.get name = .ok f ↔ r.find? (Text.lower name) = some f := by
  rw [← toOption_get]
  cases r.get name <;> simp [Except.toOption]

theorem find?_of_language (h : r.formatters.lookup key = some f) : r.find? key = some f := by
  rw [find?, h, Option.some_or]

/-- An alias that cannot be given to a language: it is a language itself, or else another one's. -/
inductive Conflict (r : Registry α) (language name : Text) : RegistryFault → Prop
  | language : Text.lower name ∈ r.languages → Conflict r language name (.aliasIsLanguage name)
  | taken {target : Text} : Text.lower name ∉ r.languages →
      r.aliases.lookup (Text.lower name) = some target → target ≠ language →
      Conflict r language name (.aliasTaken name target)

/-- The registry in which an alias leads to a language. The language's own name is no alias. -/
def withAlias (r : Registry α) (language name : Text) : Registry α :=
  if Text.lower name = language then r
  else { r with aliases := assign (Text.lower name) language r.aliases }

theorem withAlias_formatters : (r.withAlias language name).formatters = r.formatters := by
  rw [withAlias]
  split <;> rfl

/-- An alias is free for a language: it is no other language, and no other one's. -/
def IsFree (r : Registry α) (language name : Text) : Prop :=
  Text.lower name = language ∨ Text.lower name ∉ r.languages ∧
    ∀ target, r.aliases.lookup (Text.lower name) = some target → target = language

/-- An alias is entered, or it stops all that follow. -/
theorem addAliases_cons (r : Registry α) (language : Text) (replace : Bool) (name : Text) :
    ((replace = false → r.IsFree language name) ∧ ∀ rest,
        addAliases language replace (name :: rest) r =
          addAliases language replace rest (r.withAlias language name)) ∨
      ∃ fault, replace = false ∧ Text.lower name ≠ language ∧ r.Conflict language name fault ∧
        ∀ rest, addAliases language replace (name :: rest) r = (some fault, r) := by
  by_cases hname : Text.lower name = language
  · left
    exact ⟨fun _ => Or.inl hname, fun rest => by simp [addAliases, withAlias, hname]⟩
  cases replace with
  | true =>
    left
    exact ⟨nofun, fun rest => by simp [addAliases, withAlias, hname]⟩
  | false =>
    by_cases hlanguage : Text.lower name ∈ r.languages
    · right
      have hsome := isSome_lookup_formatters.mpr hlanguage
      exact ⟨_, rfl, hname, .language hlanguage, fun rest => by simp [addAliases, hname, hsome]⟩
    have hnone := lookup_eq_none_iff.mpr hlanguage
    cases htarget : r.aliases.lookup (Text.lower name) with
    | none =>
      left
      refine ⟨fun _ => Or.inr ⟨hlanguage, by simp [htarget]⟩, fun rest => ?_⟩
      simp [addAliases, withAlias, hname, hnone, htarget]
    | some target =>
      by_cases heq : target = language
      · left
        refine ⟨fun _ => Or.inr ⟨hlanguage, by simp [htarget, heq]⟩, fun rest => ?_⟩
        simp [addAliases, withAlias, hname, hnone, htarget, heq]
      · right
        refine ⟨_, rfl, hname, .taken hlanguage htarget heq, fun rest => ?_⟩
        simp [addAliases, hname, hnone, htarget, heq]

/-- Aliases are entered up to the first that conflicts. -/
theorem addAliases_refused (h : addAliases language replace names r = (some fault, r')) :
    replace = false ∧ ∃ front name back, names = front ++ name :: back ∧
      addAliases language replace front r = (none, r') ∧ Text.lower name ≠ language ∧
      r'.Conflict language name fault := by
  induction names generalizing r with
  | nil => simp [addAliases] at h
  | cons name rest ih =>
    rcases addAliases_cons r language replace name with
      ⟨-, hcons⟩ | ⟨fault', hreplace, hname, hconflict, hcons⟩
    · rw [hcons] at h
      obtain ⟨hreplace, front, other, back, rfl, hfront, hother⟩ := ih h
      exact ⟨hreplace, name :: front, other, back, rfl, (hcons front).trans hfront, hother⟩
    · rw [hcons, Prod.mk.injEq, Option.some.injEq] at h
      obtain ⟨rfl, rfl⟩ := h
      exact ⟨hreplace, [], name, rest, rfl, rfl, hname, hconflict⟩

theorem lookup_aliases_withAlias (h : r.IsFree language name)
    (hkey : r.aliases.lookup key = some target) :
    (r.withAlias language name).aliases.lookup key = some target := by
  rw [withAlias]
  split
  next => exact hkey
  next hname =>
    rw [lookup_assign]
    split
    next heq =>
      have htarget := (h.resolve_left hname).2 target (heq ▸ hkey)
      rw [htarget]
    next => exact hkey

/-- Unless it may replace, a registration moves no alias, also if it is refused. -/
theorem lookup_aliases_addAliases (hkey : r.aliases.lookup key = some target) :
    (addAliases language false names r).2.aliases.lookup key = some target := by
  induction names generalizing r with
  | nil => exact hkey
  | cons name rest ih =>
    rcases addAliases_cons r language false name with ⟨hfree, hcons⟩ | ⟨fault, -, -, -, hcons⟩
    · rw [hcons]
      exact ih (lookup_aliases_withAlias (hfree rfl) hkey)
    · rw [hcons]
      exact hkey

theorem find?_addAliases_of_find? (hkey : r.find? key = some f) :
    (addAliases language false names r).2.find? key = some f := by
  rw [find?] at hkey
  rw [find?, addAliases_formatters]
  cases hlanguage : r.formatters.lookup key with
  | some g => simpa [hlanguage] using hkey
  | none =>
    rw [hlanguage, Option.none_or] at hkey
    obtain ⟨target, htarget, hf⟩ := Option.bind_eq_some_iff.mp hkey
    rw [Option.none_or, lookup_aliases_addAliases htarget, Option.bind_some, hf]

/-- An alias that is free leads to the language that it is given to, and no other name is touched. -/
theorem find?_withAlias (hlanguage : r.formatters.lookup language = some f)
    (hfree : r.IsFree language name) :
    (r.withAlias language name).find? key =
      if key = Text.lower name then some f else r.find? key := by
  by_cases hname : Text.lower name = language
  · rw [withAlias, if_pos hname]
    split
    next heq => rw [heq, hname, find?_of_language hlanguage]
    next => rfl
  · have hnone := lookup_eq_none_iff.mpr (hfree.resolve_left hname).1
    rw [withAlias, if_neg hname, find?, find?, lookup_assign]
    split
    next heq => rw [heq, hnone, Option.none_or, Option.bind_some, hlanguage]
    next => rfl

/-- When all aliases are free, each of them leads to the language, and no other name is touched. -/
theorem find?_addAliases (hlanguage : r.formatters.lookup language = some f)
    (h : addAliases language false names r = (none, r')) :
    r'.find? key = if key ∈ names.map Text.lower then some f else r.find? key := by
  induction names generalizing r with
  | nil =>
    cases h
    simp
  | cons name rest ih =>
    rcases addAliases_cons r language false name with ⟨hfree, hcons⟩ | ⟨fault, -, -, -, hcons⟩
    · rw [hcons] at h
      rw [ih (by rw [withAlias_formatters, hlanguage]) h, find?_withAlias hlanguage (hfree rfl)]
      by_cases hrest : key ∈ rest.map Text.lower <;> simp [hrest]
    · simp [hcons] at h

/-- The registry with a language and without any new alias. -/
def withLanguage (r : Registry α) (language : Text) (f : α) : Registry α :=
  { r with formatters := assign language f r.formatters }

theorem register_of_language (h : Text.lower language ∈ r.languages) :
    r.register language (some f) names = (none, r) := by
  simp [register, isSome_lookup_formatters.mpr h]

theorem register_of_new (h : Text.lower language ∉ r.languages) :
    r.register language (some f) names replace =
      addAliases (Text.lower language) replace names (r.withLanguage (Text.lower language) f) := by
  simp [register, withLanguage, lookup_eq_none_iff.mpr h]

theorem register_replacing :
    r.register language (some f) names true =
      addAliases (Text.lower language) true names (r.withLanguage (Text.lower language) f) := by
  simp [register, withLanguage]

theorem lookup_withLanguage :
    (r.withLanguage language f).formatters.lookup key =
      if key = language then some f else r.formatters.lookup key :=
  lookup_assign

/-- No alias leads to a new language. -/
theorem IsConsistent.find?_withLanguage (h : r.IsConsistent) (hnew : language ∉ r.languages) :
    (r.withLanguage language f).find? key = if key = language then some f else r.find? key := by
  rw [find?, find?, lookup_withLanguage]
  split
  next => rfl
  next =>
    congr 1
    refine Option.bind_congr fun target htarget => ?_
    have hne : target ≠ language := by
      rintro rfl
      exact hnew (h key target (mem_of_lookup htarget))
    rw [lookup_withLanguage, if_neg hne]

/-- A new language and the aliases that are entered with it lead to its formatter, and all other names
to where they led before. -/
theorem IsConsistent.find?_register (h : r.IsConsistent) (hnew : Text.lower language ∉ r.languages)
    (hentered : r.register language (some f) names = (none, r')) :
    r'.find? key = if key ∈ (language :: names).map Text.lower then some f else r.find? key := by
  rw [register_of_new hnew] at hentered
  have hlanguage : (r.withLanguage (Text.lower language) f).formatters.lookup (Text.lower language) =
      some f := by
    rw [lookup_withLanguage, if_pos rfl]
  rw [find?_addAliases hlanguage hentered, h.find?_withLanguage hnew]
  by_cases hkey : key ∈ names.map Text.lower <;> simp [hkey]

theorem mem_languages_register (hnew : Text.lower language ∉ r.languages) :
    Text.lower language ∈ (r.register language (some f) names replace).2.languages := by
  rw [register_of_new hnew, mem_languages, addAliases_formatters, withLanguage, mem_keys_assign]
  exact Or.inl rfl

/-- A registration that fails for what is no formatter changes nothing. One that fails for an alias has
entered the language, which was not there, and the aliases in front, just as a registration with no
more than these: all of their names lead to the formatter from then on. -/
theorem register_refused {calls : List (Call α)} {formatter : Option α} {aliases : List Text}
    (h : (after calls).register language formatter aliases replace = (some fault, r')) :
    (formatter = none ∧ fault = .notFormatter ∧ r' = after calls) ∨
      ∃ f front name back, formatter = some f ∧ replace = false ∧ aliases = front ++ name :: back ∧
        Text.lower name ≠ Text.lower language ∧ r'.Conflict (Text.lower language) name fault ∧
        Text.lower language ∉ (after calls).languages ∧ Text.lower language ∈ r'.languages ∧
        (after calls).register language (some f) front = (none, r') ∧
        ∀ other, (r'.get other).toOption =
          if Text.lower other ∈ (language :: front).map Text.lower then some f
          else ((after calls).get other).toOption := by
  cases formatter with
  | none =>
    obtain ⟨hfault, rfl⟩ := Prod.mk.inj h
    exact Or.inl ⟨rfl, (Option.some.inj hfault).symm, rfl⟩
  | some f =>
    right
    have hreplace : replace = false := by
      cases replace with
      | false => rfl
      | true =>
        rw [register_replacing] at h
        exact (addAliases_refused h).1
    subst hreplace
    have hnew : Text.lower language ∉ (after calls).languages := by
      intro hlanguage
      simp [register_of_language hlanguage] at h
    rw [register_of_new hnew] at h
    obtain ⟨-, front, name, back, rfl, hfront, hname, hconflict⟩ := addAliases_refused h
    rw [← register_of_new hnew] at hfront
    have hentered : Text.lower language ∈
        ((after calls).register language (some f) front).2.languages :=
      mem_languages_register hnew
    rw [hfront] at hentered
    refine ⟨f, front, name, back, rfl, rfl, rfl, hname, hconflict, hnew, hentered, hfront,
      fun other => ?_⟩
    rw [toOption_get, toOption_get, (isConsistent_after calls).find?_register hnew hfront]

/-- A language with an alias. -/
def upperCalls : List (Call Language) :=
  [.register "upper" (some .plain) ["up"] false]

theorem register_refused_behind_alias :
    (after upperCalls).register "Another" (some .python) ["x", "upper", "y"] =
        (some (.aliasIsLanguage "upper"),
          ((after upperCalls).register "Another" (some .python) ["x"]).2) ∧
      ("another" : Text) ∈ ((after upperCalls).register "Another" (some .python) ["x"]).2.languages ∧
      ∃ front name back, (["x", "upper", "y"] : List Text) = front ++ name :: back ∧
        (after upperCalls).register "Another" (some .python) front =
          (none, ((after upperCalls).register "Another" (some .python) ["x"]).2) := by
  have h : (after upperCalls).register "Another" (some .python) ["x", "upper", "y"] =
      (some (.aliasIsLanguage "upper"),
        ((after upperCalls).register "Another" (some .python) ["x"]).2) := by
    decide +kernel
  rcases register_refused h with ⟨hnone, -, -⟩ |
    ⟨f, front, name, back, hf, -, hsplit, -, -, -, hentered, hfront, -⟩
  · exact absurd hnone (Option.some_ne_none _)
  · cases hf
    have hlower : Text.lower "Another" = "another" := by decide +kernel
    exact ⟨h, hlower ▸ hentered, front, name, back, hsplit, hfront⟩

/-- A refused language is there from then on. -/
theorem register_refused_entered :
    ((after upperCalls).register "other" (some .go) ["up"]).1 = some (.aliasTaken "up" "upper") ∧
      ((after upperCalls).register "other" (some .go) ["up"]).2 ≠ after upperCalls ∧
      (after upperCalls).supports "other" = false ∧
      ((after upperCalls).register "other" (some .go) ["up"]).2.get "other" = .ok .go := by
  decide +kernel

/-- Unless it may replace, a registration leaves every name at its formatter, also if it is refused,
but for a name that has been an alias and is now entered as a language: it leads to the new formatter. -/
theorem get_register_of_get {calls : List (Call α)} (h : (after calls).get name = .ok f)
    (language : Text) (formatter : Option α) (aliases : List Text) :
    ((Text.lower name = Text.lower language →
        formatter = none ∨ Text.lower language ∈ (after calls).languages) →
      ((after calls).register language formatter aliases).2.get name = .ok f) ∧
    ∀ g, formatter = some g → Text.lower name = Text.lower language →
      Text.lower language ∉ (after calls).languages →
      ((after calls).register language formatter aliases).2.get name = .ok g := by
  rw [get_eq_ok_iff] at h
  simp only [get_eq_ok_iff]
  cases formatter with
  | none => exact ⟨fun _ => h, nofun⟩
  | some g =>
    by_cases hknown : Text.lower language ∈ (after calls).languages
    · rw [register_of_language hknown]
      exact ⟨fun _ => h, fun _ _ _ hnew => absurd hknown hnew⟩
    · have hfind : ((after calls).withLanguage (Text.lower language) g).find? (Text.lower name) =
          if Text.lower name = Text.lower language then some g
          else (after calls).find? (Text.lower name) :=
        (isConsistent_after calls).find?_withLanguage hknown
      rw [register_of_new hknown]
      constructor
      · intro hother
        have hne : Text.lower name ≠ Text.lower language := by
          intro heq
          rcases hother heq with hnone | hlanguage
          · exact Option.some_ne_none g hnone
          · exact hknown hlanguage
        rw [if_neg hne, h] at hfind
        exact find?_addAliases_of_find? hfind
      · rintro _ ⟨rfl⟩ heq -
        rw [if_pos heq] at hfind
        exact find?_addAliases_of_find? hfind

theorem get_register_of_get_refused :
    (after upperCalls).get "UP" = .ok .plain ∧
      ((after upperCalls).register "other" (some .go) ["x", "up"]).2.get "UP" = .ok .plain := by
  have h : (after upperCalls).get "UP" = .ok .plain := by decide +kernel
  have hother : Text.lower "UP" ≠ Text.lower "other" := by decide +kernel
  exact ⟨h, (get_register_of_get h "other" (some .go) ["x", "up"]).1 fun heq => absurd heq hother⟩

/-- A language that is called like an alias takes the alias over. -/
theorem register_over_alias :
    (after upperCalls).get "up" = .ok .plain ∧
      ((after upperCalls).register "up" (some .go)).1 = none ∧
      ((after upperCalls).register "up" (some .go)).2.get "up" = .ok .go := by
  decide +kernel

end Stencil.Registry

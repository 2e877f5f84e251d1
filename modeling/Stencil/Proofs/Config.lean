import Stencil.Config
import Stencil.Proofs.Json.Objects

namespace Stencil

namespace Entries

/-- The value of a key, unless it is null. -/
def present? (k : Text) (es : Entries) : Option Value :=
  match get? (.text k) es with
  | some .null => none
  | v => v

/-- The mapping of options, which is empty if there is none. -/
def optionEntries (es : Entries) : Entries :=
  ((get? (.text "options") es).bind Value.entries?).getD []

/-- If there are options, they are a mapping or null. -/
def HasOptions (es : Entries) : Prop :=
  ∀ v, get? (.text "options") es = some v → v = .null ∨ ∃ os, v = .dict os

/-- No option is given twice. -/
def HasDistinctOptions (es : Entries) : Prop :=
  ∀ os, get? (.text "options") es = some (.dict os) → (os.map Prod.fst).Nodup

variable {es : Entries} {name k : Text} {v w : Value}

theorem HasOptions.orElse_eq (h : es.HasOptions) (hw : w = .null ∨ w = .dict []) :
    ((get? (.text "options") es).getD w).orElse (.dict []) = .dict es.optionEntries := by
  rw [optionEntries]
  cases hget : get? (.text "options") es with
  | none => rcases hw with rfl | rfl <;> rfl
  | some v =>
    rcases h v hget with rfl | ⟨os, rfl⟩
    · rfl
    · cases os <;> rfl

theorem hasOptions_set (h : es.HasOptions)
    (hv : name = "options" → v = .null ∨ ∃ os, v = .dict os) :
    HasOptions (set (.text name) v es) := by
  intro w hw
  rw [get?_text_set] at hw
  split at hw
  next hname =>
    cases Option.some.inj hw
    exact hv (Key.text.inj hname)
  next => exact h w hw

theorem optionEntries_set (hname : name ≠ "options") (v : Value) (es : Entries) :
    optionEntries (set (.text name) v es) = es.optionEntries := by
  have hne : Key.text name ≠ .text "options" := fun h => hname (Key.text.inj h)
  rw [optionEntries, get?_text_set, if_neg hne, ← optionEntries]

theorem optionEntries_singleton (hname : name ≠ "options") (v : Value) :
    optionEntries [(.text name, v)] = [] :=
  optionEntries_set hname v []

end Entries

namespace Config

open Entries

/-- An override that is not null, or else what was there. -/
def chosen (overrides es : Entries) (k : Text) : Option Value :=
  (present? k overrides).or (get? (.text k) es)

/-- Entries after overrides: these win over what was there, and options win one by one. -/
structure Overridden (overrides es es' : Entries) : Prop where
  object : es'.IsObject
  hasOptions : es'.HasOptions
  setting : ∀ k : Text, k ≠ "options" → get? (.text k) es' = chosen overrides es k
  option : ∀ k, get? (.text k) es'.optionEntries =
    (get? (.text k) overrides.optionEntries).or (get? (.text k) es.optionEntries)

variable {d : Disk} {file name k : Text} {v : Value} {es es' es₁ es₂ overrides rest : Entries}
  {p : Path}

theorem chosen_of_notMem (h : Key.text k ∉ overrides.map Prod.fst) (es : Entries) :
    chosen overrides es k = get? (.text k) es := by
  rw [chosen, present?, get?_text_eq_none_iff.mpr h]
  rfl

theorem overridden_null (object : es.IsObject) (hasOptions : es.HasOptions) (name : Text) :
    Overridden [(.text name, .null)] es es where
  object := object
  hasOptions := hasOptions
  setting k _ := by
    rw [chosen, present?, get?_text_cons]
    by_cases hk : Key.text name = .text k
    · rw [if_pos hk]
      rfl
    · rw [if_neg hk]
      rfl
  option k := by
    have hnone : optionEntries [(.text name, .null)] = [] := by
      rw [optionEntries, get?_text_cons]
      split <;> rfl
    rw [hnone]
    rfl

theorem overridden_set (object : es.IsObject) (hasOptions : es.HasOptions) (hname : name ≠ "options")
    (hv : v ≠ .null) : Overridden [(.text name, v)] es (set (.text name) v es) where
  object := object.set name v
  hasOptions := hasOptions_set hasOptions fun h => absurd h hname
  setting k _ := by
    rw [get?_text_set, chosen, present?, get?_text_cons]
    split
    next =>
      split
      next heq => exact absurd (Option.some.inj heq) hv
      next => rfl
    next => rfl
  option k := by
    rw [optionEntries_set hname, optionEntries_singleton hname]
    rfl

theorem overridden_options {os : Entries} (object : es.IsObject) (hasOptions : es.HasOptions)
    (distinct : (os.map Prod.fst).Nodup) :
    Overridden [(.text "options", .dict os)] es
      (set (.text "options") (.dict (update es.optionEntries os)) es) where
  object := object.set _ _
  hasOptions := hasOptions_set hasOptions fun _ => Or.inr ⟨_, rfl⟩
  setting k hk := by
    have hne : Key.text "options" ≠ .text k := fun h => hk (Key.text.inj h).symm
    rw [get?_text_set, if_neg hne, chosen_of_notMem (by simpa using hne.symm)]
  option k := by
    have hset : optionEntries (set (.text "options") (.dict (update es.optionEntries os)) es) =
        update es.optionEntries os := by
      rw [optionEntries, get?_text_set, if_pos rfl]
      rfl
    rw [hset, get?_text_update distinct]
    rfl

theorem override_run (object : es.IsObject) (hasOptions : es.HasOptions) (name : Text)
    (given : HasOptions [(.text name, v)]) (distinct : HasDistinctOptions [(.text name, v)]) :
    ∃ es', override es (.text name) v = .ok es' ∧ Overridden [(.text name, v)] es es' := by
  by_cases hv : v = .null
  · subst hv
    exact ⟨es, rfl, overridden_null object hasOptions name⟩
  by_cases hname : name = "options"
  · subst hname
    rcases given v rfl with rfl | ⟨os, rfl⟩
    · exact absurd rfl hv
    · refine ⟨_, ?_, overridden_options object hasOptions (distinct os rfl)⟩
      simp only [override, if_true, hasOptions.orElse_eq (Or.inl rfl)]
  · refine ⟨_, ?_, overridden_set object hasOptions hname hv⟩
    have hne : Key.text name ≠ .text "options" := fun h => hname (Key.text.inj h)
    cases v <;> first | exact absurd rfl hv | exact if_neg hne

theorem Overridden.cons (h₁ : Overridden [(.text name, v)] es es₁) (h₂ : Overridden rest es₁ es₂)
    (hname : Key.text name ∉ rest.map Prod.fst) : Overridden ((.text name, v) :: rest) es es₂ where
  object := h₂.object
  hasOptions := h₂.hasOptions
  setting k hk := by
    by_cases hkn : name = k
    · subst hkn
      rw [h₂.setting name hk, chosen_of_notMem hname, h₁.setting name hk]
      simp only [chosen, present?, get?_text_cons, if_true]
    · have hne : Key.text name ≠ .text k := fun h => hkn (Key.text.inj h)
      rw [h₂.setting k hk, chosen, h₁.setting k hk, chosen_of_notMem (by simpa using hne.symm), chosen,
        present?, present?, get?_text_cons, if_neg hne]
  option k := by
    rw [h₂.option, h₁.option]
    by_cases hopt : name = "options"
    · subst hopt
      have hrest : rest.optionEntries = [] := by
        rw [optionEntries, get?_text_eq_none_iff.mpr hname]
        rfl
      have hsame : optionEntries ((.text "options", v) :: rest) = optionEntries [(.text "options", v)] := by
        rw [optionEntries, optionEntries, get?_text_cons, get?_text_cons, if_pos rfl, if_pos rfl]
      rw [hrest, hsame]
      rfl
    · have hne : Key.text name ≠ .text "options" := fun h => hopt (Key.text.inj h)
      have hsame : optionEntries ((.text name, v) :: rest) = rest.optionEntries := by
        rw [optionEntries, get?_text_cons, if_neg hne, ← optionEntries]
      rw [optionEntries_singleton hopt, hsame]
      rfl

-- The names differ, so an entry that is taken over is not overridden by a later one.
theorem overrides_run (object : es.IsObject) (hasOptions : es.HasOptions)
    (names : overrides.IsObject) (given : overrides.HasOptions)
    (distinct : overrides.HasDistinctOptions) :
    ∃ es', overrides.foldlM (fun es (name, v) => override es name v) es = .ok es' ∧
      Overridden overrides es es' := by
  induction overrides generalizing es with
  | nil => exact ⟨es, rfl, object, hasOptions, fun _ _ => rfl, fun _ => rfl⟩
  | cons e rest ih =>
    obtain ⟨key, v⟩ := e
    obtain ⟨name, rfl⟩ := names.text key List.mem_cons_self
    have hname : Key.text name ∉ rest.map Prod.fst := (List.nodup_cons.mp names.nodup).1
    obtain ⟨es₁, hrun₁, h₁⟩ := override_run object hasOptions name
      (fun w hw => given w (get?_text_of_singleton hw rest))
      (fun os hos => distinct os (get?_text_of_singleton hos rest))
    obtain ⟨es₂, hrun₂, h₂⟩ := ih h₁.object h₁.hasOptions names.tail
      (fun w hw => given w (get?_text_of_tail hname v hw))
      (fun os hos => distinct os (get?_text_of_tail hname v hos))
    refine ⟨es₂, ?_, h₁.cons h₂ hname⟩
    rw [List.foldlM_cons]
    simp only [hrun₁]
    exact hrun₂

/-- The entries that are no settings. -/
def further (es : Entries) : Entries :=
  es.filter fun e => !isSetting e.1

theorem get?_text_further (k : Text) (es : Entries) :
    get? (.text k) (further es) = if k ∈ settings then none else get? (.text k) es := by
  rw [further, get?_text_filter fun k => !isSetting k]
  by_cases hk : k ∈ settings <;> simp [isSetting, hk]

theorem optionsOf_run (hasOptions : es.HasOptions) :
    ∃ v, optionsOf es = .ok v ∧ v.entries?.getD [] = update es.optionEntries (further es) := by
  by_cases hempty : (further es).isEmpty = true
  · refine ⟨_, if_pos hempty, ?_⟩
    rw [List.isEmpty_iff.mp hempty, optionEntries]
    cases get? (.text "options") es <;> rfl
  · have hmapping : mappingOf (((get? (.text "options") es).getD (.dict [])).orElse (.dict [])) =
        .ok es.optionEntries := by
      rw [hasOptions.orElse_eq (Or.inr rfl)]
      rfl
    refine ⟨.dict (update es.optionEntries (further es)), (if_neg hempty).trans ?_, rfl⟩
    rw [hmapping]
    rfl

/-- What is no setting of its own goes before the options. -/
theorem get?_text_optionsOf (object : es.IsObject) (k : Text) :
    get? (.text k) (update es.optionEntries (further es)) =
      if k ∈ settings then get? (.text k) es.optionEntries
      else (get? (.text k) es).or (get? (.text k) es.optionEntries) := by
  have hdistinct : ((further es).map Prod.fst).Nodup :=
    object.nodup.sublist (List.filter_sublist.map Prod.fst)
  rw [get?_text_update hdistinct, get?_text_further]
  split <;> rfl

theorem parse?_of_readerJson {t : Text} {v : Value} (h : Reader.json t = .ok v) :
    Json.parse? t = some v := by
  rw [Reader.json] at h
  cases hparse : Json.parse? t with
  | none => simp [hparse] at h
  | some w => simpa [hparse] using h

theorem isObject_of_readFile (h : readFile d p = .ok es) : es.IsObject := by
  simp only [readFile, readFileBy, bind, Except.bind, pure, Except.pure, throw, throwThe,
    MonadExceptOf.throw] at h
  -- of all the ways to end, only a text that is parsed to a mapping is no fault
  repeat' split at h
  all_goals cases h
  next hread => exact Json.isObject_of_parse? (parse?_of_readerJson hread)

/-- What a file says, and nothing if there is none. -/
def fileEntries (d : Disk) (file : Text) : Except Fault Entries :=
  if file.isEmpty then .ok [] else readFile d (Path.parse file)

theorem isObject_of_fileEntries (h : fileEntries d file = .ok es) : es.IsObject := by
  rw [fileEntries] at h
  split at h
  next =>
    cases Except.ok.inj h
    exact isObject_nil
  next => exact isObject_of_readFile h

theorem load_eq (d : Disk) (file : Text) (overrides : Entries) :
    load d file overrides = (fileEntries d file).bind fun es =>
      (overrides.foldlM (fun es (name, v) => override es name v) es).bind ofEntries := by
  rw [load, fileEntries]
  split <;> rfl

/-- Overrides go before the file and the file goes before the defaults, for every setting of its own.
For an option the overrides go before the file as well, among the options as among the keys that are no
settings, none of which is lost; but such a key goes before the options, even one of the file before
those of the overrides. -/
theorem load_precedence (source : fileEntries d file = .ok es) (hasOptions : es.HasOptions)
    (names : overrides.IsObject) (given : overrides.HasOptions)
    (distinct : overrides.HasDistinctOptions) :
    ∃ c, load d file overrides = .ok c ∧
      c.baseDirectory = (chosen overrides es "base_dir").getD .null ∧
      c.language = (chosen overrides es "language").getD (.text "default") ∧
      c.tidy = (chosen overrides es "tidy").getD (.bool false) ∧
      c.autoescape = (chosen overrides es "autoescape").getD (.bool false) ∧
      ∀ k : Text, get? (.text k) (c.options.entries?.getD []) =
        if k ∈ settings then
          (get? (.text k) overrides.optionEntries).or (get? (.text k) es.optionEntries)
        else (chosen overrides es k).or
          ((get? (.text k) overrides.optionEntries).or (get? (.text k) es.optionEntries)) := by
  obtain ⟨es', hrun, h⟩ :=
    overrides_run (isObject_of_fileEntries source) hasOptions names given distinct
  obtain ⟨v, hoptions, hentries⟩ := optionsOf_run h.hasOptions
  have hload : load d file overrides = ofEntries es' := by
    rw [load_eq, source]
    simp only [Except.bind, hrun]
  have hconfig : ofEntries es' = .ok {
      baseDirectory := (get? (.text "base_dir") es').getD .null
      language := (get? (.text "language") es').getD (.text "default")
      options := v
      tidy := (get? (.text "tidy") es').getD (.bool false)
      autoescape := (get? (.text "autoescape") es').getD (.bool false) } := by
    rw [ofEntries, hoptions]
    rfl
  refine ⟨_, hload.trans hconfig, ?_, ?_, ?_, ?_, fun k => ?_⟩
  · rw [h.setting "base_dir" (by decide)]
  · rw [h.setting "language" (by decide)]
  · rw [h.setting "tidy" (by decide)]
  · rw [h.setting "autoescape" (by decide)]
  · rw [hentries, get?_text_optionsOf h.object, h.option]
    split
    next => rfl
    next hk =>
      have hopt : k ≠ "options" := by
        rintro rfl
        exact hk (by decide)
      rw [h.setting k hopt]

def configDisk : Disk where
  nodes := [(["target.json"], .file (Text.encode
    "\x7b\"language\": \"go\", \"group\": \"file\", \"options\": \x7b\"name\": \"inner\"\x7d\x7d") 0o644)]

/-- Overrides of options that the file gives among its own and beside them. -/
def configOverrides : Entries :=
  [(.text "language", .null), (.text "tidy", .bool true),
    (.text "options", .dict [(.text "name", .text "mine"), (.text "group", .text "mine")])]

theorem load_precedence_configDisk :
    ∃ es c, fileEntries configDisk "target.json" = .ok es ∧ es.HasOptions ∧
      configOverrides.IsObject ∧ configOverrides.HasOptions ∧ configOverrides.HasDistinctOptions ∧
      load configDisk "target.json" configOverrides = .ok c ∧
      c.language = (get? (.text "language") es).getD (.text "default") ∧ c.tidy = .bool true ∧
      get? (.text "name") (c.options.entries?.getD []) = some (.text "mine") := by
  have hcheck : (fileEntries configDisk "target.json").toOption.any (fun es =>
      (get? (.text "options") es).all (fun v => v.entries?.isSome) &&
        (get? (.text "name") es).isNone) = true := by
    decide +kernel
  rcases hfile : fileEntries configDisk "target.json" with cause | es
  · rw [hfile] at hcheck
    cases hcheck
  rw [hfile] at hcheck
  obtain ⟨hmapping, hname⟩ := Bool.and_eq_true_iff.mp hcheck
  have hasOptions : es.HasOptions := by
    intro v hv
    rw [hv] at hmapping
    cases v with
    | dict os => exact Or.inr ⟨os, rfl⟩
    | _ => cases hmapping
  have names : configOverrides.IsObject := by
    refine ⟨fun k hk => ?_, by decide⟩
    simp only [configOverrides, List.map_cons, List.map_nil, List.mem_cons, List.not_mem_nil,
      or_false] at hk
    rcases hk with rfl | rfl | rfl <;> exact ⟨_, rfl⟩
  have given : configOverrides.HasOptions := fun v hv => Or.inr ⟨_, (Option.some.inj hv).symm⟩
  have distinct : configOverrides.HasDistinctOptions := by
    intro os hos
    cases Option.some.inj hos
    decide
  obtain ⟨c, hload, -, hlanguage, htidy, -, hoption⟩ :=
    load_precedence hfile hasOptions names given distinct
  refine ⟨es, c, rfl, hasOptions, names, given, distinct, hload, hlanguage, htidy, ?_⟩
  rw [hoption, if_neg (by decide), chosen, Option.isNone_iff_eq_none.mp hname]
  rfl

/-- An option of the overrides loses against a key of the file that is no setting. -/
theorem load_option_lost :
    (get? (.text "group") configOverrides.optionEntries).bind Value.asText? = some "mine" ∧
      (load configDisk "target.json" configOverrides).toOption.bind (fun c =>
        (get? (.text "group") (c.options.entries?.getD [])).bind Value.asText?) = some "file" := by
  decide +kernel

end Config

end Stencil

import Stencil.Language.Call
import Stencil.Proofs.Name.Words

namespace Stencil

open Name Text

/-- Letters, digits and underscores, at least one of them, and no digit in front. -/
structure IsIdentifier (t : Text) : Prop where
  ne_nil : t ≠ []
  chars : ∀ c ∈ t, isIdentifierChar c = true
  start : ∀ c ∈ t.head?, isAsciiDigit c = false

theorem isIdentifier_iff (t : Text) :
    (t ≠ [] ∧ t.all isIdentifierChar = true ∧ (t.head?.all fun c => !isAsciiDigit c) = true) ↔
      IsIdentifier t := by
  constructor
  · rintro ⟨hne, hchars, hstart⟩
    refine ⟨hne, List.all_eq_true.mp hchars, fun c hc => ?_⟩
    rw [Option.mem_def.mp hc] at hstart
    simpa using hstart
  · rintro ⟨hne, hchars, hstart⟩
    refine ⟨hne, List.all_eq_true.mpr hchars, ?_⟩
    cases hhead : t.head? with
    | none => rfl
    | some c => simpa using hstart c hhead

instance (t : Text) : Decidable (IsIdentifier t) :=
  decidable_of_iff _ (isIdentifier_iff t)

variable {s t suffix : Text} {style : Style}

theorem IsIdentifier.append (hs : IsIdentifier s) (ht : ∀ c ∈ t, isIdentifierChar c = true) :
    IsIdentifier (s ++ t) where
  ne_nil := by simp [hs.ne_nil]
  chars := List.forall_mem_append.mpr ⟨hs.chars, ht⟩
  start := by
    rw [List.head?_append_of_ne_nil s hs.ne_nil]
    exact hs.start

namespace Sanitizer

theorem isIdentifier_guardDigit (hne : t ≠ []) (ht : ∀ c ∈ t, isIdentifierChar c = true) :
    IsIdentifier (guardDigit t) := by
  obtain ⟨c, rest, rfl⟩ := List.exists_cons_of_ne_nil hne
  rw [guardDigit]
  split
  next =>
    exact ⟨by simp, List.forall_mem_cons.mpr ⟨by decide, ht⟩, by simp [isAsciiDigit]⟩
  next hc => exact ⟨hne, ht, by simpa using hc⟩

theorem isNameChar_kept (c : Char) : isNameChar (if isNameChar c then c else '_') = true := by
  by_cases hc : isNameChar c = true
  · rw [if_pos hc, hc]
  · rw [if_neg hc]
    decide

/-- What is left of a name has a letter or a digit, and where nothing is left there is a name for it. -/
theorem exists_alphanumeric_clean (name : Text) :
    ∃ c ∈ clean name, isAsciiAlphanumeric c = true := by
  simp only [clean]
  split
  next => exact ⟨'v', by simp, by decide⟩
  next hkept =>
    obtain ⟨c, hc, hedge⟩ := exists_mem_trim (by simpa using hkept)
    have hname : isNameChar c = true := by
      obtain ⟨d, -, rfl⟩ := List.mem_map.mp (trim_subset _ _ hc)
      exact isNameChar_kept d
    rw [Bool.or_eq_false_iff] at hedge
    exact ⟨c, hc, by simpa [isNameChar, hedge.1, hedge.2] using hname⟩

/-- A sanitized name is an identifier, and so is one that is marked by a suffix. -/
theorem isIdentifier_sanitize (z : Sanitizer) (hstyle : style ≠ .kebab)
    (hsuffix : ∀ c ∈ suffix, isIdentifierChar c = true) (name : Text) :
    IsIdentifier (z.sanitize style suffix name) := by
  obtain ⟨c, hc, halpha⟩ := exists_alphanumeric_clean name
  obtain ⟨hne, hchars⟩ := convert_of_splitWords hstyle (splitWords_ne_nil hc halpha)
  have hguarded := isIdentifier_guardDigit hne hchars
  simp only [sanitize]
  split
  next => exact hguarded.append hsuffix
  next => exact hguarded

theorem sanitize_notMem_reserved (z : Sanitizer) (hfree : ∀ word ∈ z.reserved, ¬ suffix <:+ word)
    (name : Text) : z.sanitize style suffix name ∉ z.reserved := by
  simp only [sanitize]
  split
  next => exact fun hmem => hfree _ hmem (List.suffix_append _ _)
  next hres => simpa [isReserved] using hres

end Sanitizer

namespace Language

variable {l : Language} {v w : Value}

/-- An identifier of the language that is none of its reserved words. -/
structure Names (l : Language) (t : Text) : Prop extends IsIdentifier t where
  notMem_reserved : t ∉ l.sanitizer.reserved

theorem suffix_free (l : Language) : ∀ word ∈ l.sanitizer.reserved, ¬ ("_" : Text) <:+ word := by
  cases l <;> decide

theorem names_identifier (l : Language) (hstyle : style ≠ .kebab) (name : Text) :
    l.Names (l.identifier style name) where
  toIsIdentifier :=
    l.sanitizer.isIdentifier_sanitize hstyle (List.all_eq_true.mp (by decide)) name
  notMem_reserved := l.sanitizer.sanitize_notMem_reserved l.suffix_free name

theorem names_of_builtin (h : l.sanitizer.isBuiltin t = true) : l.Names t := by
  have hall : ∀ name ∈ l.sanitizer.builtins, IsIdentifier name ∧ name ∉ l.sanitizer.reserved := by
    cases l <;> decide +kernel
  obtain ⟨hident, hfree⟩ := hall t (by simpa [Sanitizer.isBuiltin] using h)
  exact ⟨hident, hfree⟩

theorem names_append_identifier (hs : IsIdentifier s)
    (hfree : ∀ word ∈ l.sanitizer.reserved, ¬ s <+: word) (hstyle : style ≠ .kebab) (name : Text) :
    l.Names (s ++ l.identifier style name) where
  toIsIdentifier := hs.append (names_identifier l hstyle name).chars
  notMem_reserved hmem := hfree _ hmem (List.prefix_append s _)

theorem names_type (hl : l ≠ .plain) (hv : typeName v ≠ []) : l.Names (l.type v) := by
  have hnamed : l.type v = if l.sanitizer.isBuiltin (typeName v) then typeName v
      else l.identifier .pascal (typeName v) := by
    cases l with
    | plain => exact absurd rfl hl
    | go | python => simp [type, typeNamed, hv]
  rw [hnamed]
  split
  next hbuiltin => exact names_of_builtin hbuiltin
  next => exact names_identifier l (by decide) _

theorem names_getter (hl : l ≠ .plain) (v : Value) (t : Text) : l.Names (l.getter v t) := by
  cases l with
  | plain => exact absurd rfl hl
  | go => exact names_identifier go (by decide) t
  | python =>
    rw [getter]
    split
    next => exact names_append_identifier (by decide) (by decide) (by decide) t
    next => exact names_append_identifier (by decide) (by decide) (by decide) t

theorem names_setter (hl : l ≠ .plain) (t : Text) : l.Names (l.setter t) := by
  cases l with
  | plain => exact absurd rfl hl
  | go => exact names_append_identifier (by decide) (by decide) (by decide) t
  | python => exact names_append_identifier (by decide) (by decide) (by decide) t

theorem names_variableName (hl : l ≠ .plain) (hv : typeName v ≠ []) : l.Names (l.variableName v) := by
  cases l with
  | plain => exact absurd rfl hl
  | go =>
    rw [variableName, if_neg (by simpa using hv)]
    exact names_identifier go (by decide) _
  | python =>
    rw [variableName, if_neg (by simpa using hv)]
    exact names_identifier python (by decide) _

/-- The methods that write names, with the arguments that they take: a value that has a type, or a
text, or both. -/
def namingCalls : Language → Value → Value → List (Text × List Value)
  | plain, _, _ => []
  | go, v, w => [("type", [v]), ("variable", [v]), ("getter", [v, w]), ("setter", [v, w])]
  | python, v, w => [("type", [v]), ("return_type", [v]), ("variable", [v]), ("method", [w]),
    ("constant", [w]), ("namespace", [w]), ("getter", [v, w]), ("setter", [v, w])]

/-- Whatever names are written for, they are identifiers of the language and none of its reserved
words. -/
theorem call_names (l : Language) (hv : typeName v ≠ []) (hw : w.asText? = some t) (ht : t ≠ []) :
    ∀ c ∈ l.namingCalls v w, ∃ name, l.call c.1 c.2 = .ok (.text name) ∧ l.Names name := by
  have hdisplay : w.displayTrue = t := by
    cases w <;> simp_all [Value.asText?, Value.displayTrue, Value.truthy, Value.display]
  have hwritten (style : Style) (hstyle : style ≠ .kebab) :
      python.Names (if t.isEmpty then [] else python.identifier style t) := by
    rw [if_neg (by simpa using ht)]
    exact names_identifier python hstyle t
  cases l with
  | plain => simp [namingCalls]
  | go =>
    have hl : go ≠ plain := by decide
    simp only [namingCalls, List.forall_mem_cons]
    exact ⟨⟨_, rfl, names_type hl hv⟩, ⟨_, rfl, names_variableName hl hv⟩,
      ⟨_, rfl, names_getter hl v _⟩, ⟨_, rfl, names_setter hl _⟩, by simp⟩
  | python =>
    have hl : python ≠ plain := by decide
    have htruthy : v.truthy = true := by
      by_contra hfalse
      exact hv (by simp [typeName, hfalse])
    simp only [namingCalls, List.forall_mem_cons]
    refine ⟨⟨_, rfl, names_type hl hv⟩, ⟨python.type v, ?_, names_type hl hv⟩,
      ⟨_, rfl, names_variableName hl hv⟩, ⟨_, hdisplay ▸ rfl, hwritten .snake (by decide)⟩,
      ⟨_, hdisplay ▸ rfl, hwritten .screaming (by decide)⟩,
      ⟨_, hdisplay ▸ rfl, hwritten .snake (by decide)⟩, ⟨_, rfl, names_getter hl v _⟩,
      ⟨_, rfl, names_setter hl _⟩, by simp⟩
    show Except.ok (Value.text (python.returnType v)) = _
    rw [returnType, if_pos htruthy]

/-- A type that is called like a reserved word. -/
def noneReference : Value :=
  .dict [(.text "ref", .text ""), (.text "$ref", .text "None")]

/-- A property of which little is left. -/
def markedProperty : Text :=
  ".9-ß"

example : python.type noneReference = "None_".toList ∧ go.setter markedProperty = "Set_9".toList := by
  decide

theorem call_names_reserved :
    typeName noneReference ≠ [] ∧ markedProperty ≠ [] ∧
      ∀ c ∈ python.namingCalls noneReference (.text markedProperty),
        ∃ name, python.call c.1 c.2 = .ok (.text name) ∧ python.Names name := by
  have hv : typeName noneReference ≠ [] := by decide
  have ht : markedProperty ≠ [] := by decide
  exact ⟨hv, ht, call_names python hv rfl ht⟩

end Language

end Stencil

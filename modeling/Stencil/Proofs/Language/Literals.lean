import Mathlib.Data.List.Basic
import Mathlib.Data.List.Induction
import Stencil.Language.Call

namespace Stencil

variable {s t e : Text} {c : Char}

theorem Text.replace_singleton (m : Char) (new t : Text) :
    Text.replace [m] new t = t.flatMap fun c => if c = m then new else [c] := by
  unfold Text.replace
  induction t with
  | nil => rfl
  | cons c t ih =>
    rw [Text.replaceFrom, List.flatMap_cons, List.length_singleton, Nat.sub_self, ih]
    by_cases h : c = m
    · simp [Text.startsWith, h]
    · simp [Text.startsWith, h, Ne.symm h]

/-- What is written for a character inside a literal. -/
def escapedChar (c : Char) : Text :=
  if c = '\\' then "\\\\" else if c = '"' then "\\\"" else [c]

theorem escapedChar_of_ne (hslash : c ≠ '\\') (hquote : c ≠ '"') : escapedChar c = [c] := by
  rw [escapedChar, if_neg hslash, if_neg hquote]

/-- The backslashes that are put in front of quotes are not escaped again. -/
theorem escapeLiteral_eq_flatMap (t : Text) : escapeLiteral t = t.flatMap escapedChar := by
  have hslash : ("\\" : Text) = ['\\'] := rfl
  have hquote : ("\"" : Text) = ['"'] := rfl
  rw [escapeLiteral, hslash, hquote, Text.replace_singleton, Text.replace_singleton,
    List.flatMap_assoc]
  refine List.flatMap_congr fun c _ => ?_
  by_cases h : c = '\\'
  · subst h
    decide
  · by_cases hq : c = '"' <;> simp [escapedChar, h, hq]

theorem escapeLiteral_cons (c : Char) (t : Text) :
    escapeLiteral (c :: t) = escapedChar c ++ escapeLiteral t := by
  rw [escapeLiteral_eq_flatMap, List.flatMap_cons, ← escapeLiteral_eq_flatMap]

theorem unescapeLiteral?_cons (hslash : c ≠ '\\') (hquote : c ≠ '"') (e : Text) :
    unescapeLiteral? (c :: e) = (unescapeLiteral? e).map (c :: ·) := by
  rw [unescapeLiteral?]
  · rw [if_neg (by simp [hslash, hquote])]
  · exact fun _ h _ => hslash h
  · exact fun _ h _ => hslash h

theorem unescapeLiteral?_escapeLiteral (t : Text) :
    unescapeLiteral? (escapeLiteral t) = some t := by
  induction t with
  | nil => rfl
  | cons c t ih =>
    rw [escapeLiteral_cons]
    by_cases hslash : c = '\\'
    · subst hslash
      show (unescapeLiteral? (escapeLiteral t)).map ('\\' :: ·) = _
      rw [ih, Option.map_some]
    · by_cases hquote : c = '"'
      · subst hquote
        show (unescapeLiteral? (escapeLiteral t)).map ('"' :: ·) = _
        rw [ih, Option.map_some]
      · rw [escapedChar_of_ne hslash hquote, List.singleton_append,
          unescapeLiteral?_cons hslash hquote, ih, Option.map_some]

theorem eq_escapeLiteral_of_unescapeLiteral? (h : unescapeLiteral? e = some t) :
    e = escapeLiteral t := by
  fun_induction unescapeLiteral? e generalizing t with
  | case1 =>
    cases Option.some.inj h
    rfl
  | case2 e ih =>
    obtain ⟨t, ht, rfl⟩ := Option.map_eq_some_iff.mp h
    rw [ih ht, escapeLiteral_cons]
    rfl
  | case3 e ih =>
    obtain ⟨t, ht, rfl⟩ := Option.map_eq_some_iff.mp h
    rw [ih ht, escapeLiteral_cons]
    rfl
  | case4 => simp at h
  | case5 c e _ _ hc ih =>
    obtain ⟨t, ht, rfl⟩ := Option.map_eq_some_iff.mp h
    rw [Bool.or_eq_true, decide_eq_true_eq, decide_eq_true_eq, not_or] at hc
    rw [ih ht, escapeLiteral_cons, escapedChar_of_ne hc.1 hc.2]
    rfl

theorem unescapeLiteral?_eq_some_iff : unescapeLiteral? e = some t ↔ e = escapeLiteral t :=
  ⟨eq_escapeLiteral_of_unescapeLiteral?, fun h => h ▸ unescapeLiteral?_escapeLiteral t⟩

theorem escapeLiteral_injective : Function.Injective escapeLiteral := by
  intro s t h
  have hs := unescapeLiteral?_escapeLiteral s
  rw [h, unescapeLiteral?_escapeLiteral] at hs
  exact (Option.some.inj hs).symm

theorem escapeLiteral_append (s t : Text) :
    escapeLiteral (s ++ t) = escapeLiteral s ++ escapeLiteral t := by
  simp only [escapeLiteral_eq_flatMap, List.flatMap_append]

/-- Reads a literal behind its opening quote: the text up to the first quote that is not escaped, and
what follows that quote. -/
def readLiteral? : Text → Option (Text × Text)
  | [] => none
  | '"' :: rest => some ([], rest)
  | '\\' :: '\\' :: e => (readLiteral? e).map fun (t, rest) => ('\\' :: t, rest)
  | '\\' :: '"' :: e => (readLiteral? e).map fun (t, rest) => ('"' :: t, rest)
  | c :: e => if c = '\\' then none else (readLiteral? e).map fun (t, rest) => (c :: t, rest)

theorem readLiteral?_cons (hslash : c ≠ '\\') (hquote : c ≠ '"') (e : Text) :
    readLiteral? (c :: e) = (readLiteral? e).map fun (t, rest) => (c :: t, rest) := by
  rw [readLiteral?]
  · rw [if_neg hslash]
  · exact hquote
  · exact fun _ h _ => hslash h
  · exact fun _ h _ => hslash h

/-- A literal ends at its own closing quote. -/
theorem readLiteral?_escapeLiteral (t rest : Text) :
    readLiteral? (escapeLiteral t ++ '"' :: rest) = some (t, rest) := by
  induction t with
  | nil => rfl
  | cons c t ih =>
    rw [escapeLiteral_cons, List.append_assoc]
    by_cases hslash : c = '\\'
    · subst hslash
      show (readLiteral? (escapeLiteral t ++ '"' :: rest)).map _ = _
      rw [ih, Option.map_some]
    · by_cases hquote : c = '"'
      · subst hquote
        show (readLiteral? (escapeLiteral t ++ '"' :: rest)).map _ = _
        rw [ih, Option.map_some]
      · rw [escapedChar_of_ne hslash hquote, List.singleton_append,
          readLiteral?_cons hslash hquote, ih, Option.map_some]

/-- The number of backslashes that a text ends in. -/
def slashesAtEnd (t : Text) : Nat :=
  (t.reverse.takeWhile (· = '\\')).length

theorem slashesAtEnd_concat (t : Text) (c : Char) :
    slashesAtEnd (t ++ [c]) = if c = '\\' then slashesAtEnd t + 1 else 0 := by
  by_cases h : c = '\\' <;> simp [slashesAtEnd, h]

/-- Whether a character is escaped is told by the number of backslashes right in front of it. In an
escaped text every quote is, and what follows the text is not. -/
structure IsEscaped (e : Text) : Prop where
  quote : ∀ left right, e = left ++ '"' :: right → slashesAtEnd left % 2 = 1
  ending : slashesAtEnd e % 2 = 0

theorem slashesAtEnd_escapeLiteral (t : Text) : slashesAtEnd (escapeLiteral t) % 2 = 0 := by
  induction t using List.reverseRecOn with
  | nil => rfl
  | append_singleton t c ih =>
    have hlast : escapeLiteral [c] = escapedChar c := by
      rw [escapeLiteral_eq_flatMap, List.flatMap_singleton]
    rw [escapeLiteral_append, hlast]
    by_cases hslash : c = '\\'
    · have htwo : escapedChar c = ['\\'] ++ ['\\'] := by
        rw [escapedChar, if_pos hslash]
        rfl
      rw [htwo, ← List.append_assoc, slashesAtEnd_concat, slashesAtEnd_concat, if_pos rfl, if_pos rfl]
      omega
    · by_cases hquote : c = '"'
      · have htwo : escapedChar c = ['\\'] ++ ['"'] := by
          rw [escapedChar, if_neg hslash, if_pos hquote]
          rfl
        rw [htwo, ← List.append_assoc, slashesAtEnd_concat, if_neg (by decide)]
      · rw [escapedChar_of_ne hslash hquote, slashesAtEnd_concat, if_neg hslash]

/-- In front of a quote stand an escaped text and the backslash that escapes the quote. -/
theorem exists_of_escapeLiteral_eq {left right : Text} (h : escapeLiteral t = left ++ '"' :: right) :
    ∃ s, left = escapeLiteral s ++ ['\\'] := by
  induction t generalizing left with
  | nil => simp [escapeLiteral_eq_flatMap] at h
  | cons c t ih =>
    rw [escapeLiteral_cons] at h
    by_cases hslash : c = '\\'
    · subst hslash
      have hpair : '\\' :: '\\' :: escapeLiteral t = left ++ '"' :: right := h
      rcases left with _ | ⟨a, _ | ⟨b, left⟩⟩
      · simp at hpair
      · simp at hpair
      · simp only [List.cons_append, List.cons.injEq] at hpair
        obtain ⟨rfl, rfl, hrest⟩ := hpair
        obtain ⟨s, rfl⟩ := ih hrest
        exact ⟨'\\' :: s, by rw [escapeLiteral_cons]; rfl⟩
    · by_cases hquote : c = '"'
      · subst hquote
        have hpair : '\\' :: '"' :: escapeLiteral t = left ++ '"' :: right := h
        rcases left with _ | ⟨a, _ | ⟨b, left⟩⟩
        · simp at hpair
        · simp only [List.cons_append, List.cons.injEq] at hpair
          exact ⟨[], by rw [← hpair.1]; rfl⟩
        · simp only [List.cons_append, List.cons.injEq] at hpair
          obtain ⟨rfl, rfl, hrest⟩ := hpair
          obtain ⟨s, rfl⟩ := ih hrest
          exact ⟨'"' :: s, by rw [escapeLiteral_cons]; rfl⟩
      · rw [escapedChar_of_ne hslash hquote, List.singleton_append] at h
        cases left with
        | nil => exact absurd (List.cons.inj h).1 hquote
        | cons a left =>
          obtain ⟨rfl, hrest⟩ := List.cons.inj h
          obtain ⟨s, rfl⟩ := ih hrest
          refine ⟨c :: s, ?_⟩
          rw [escapeLiteral_cons, escapedChar_of_ne hslash hquote]
          rfl

theorem isEscaped_escapeLiteral (t : Text) : IsEscaped (escapeLiteral t) where
  quote left right h := by
    obtain ⟨s, rfl⟩ := exists_of_escapeLiteral_eq h
    have heven := slashesAtEnd_escapeLiteral s
    rw [slashesAtEnd_concat, if_pos rfl]
    omega
  ending := slashesAtEnd_escapeLiteral t

theorem Value.expectText_text (t : Text) : (Value.text t).expectText = .ok t := by
  cases t <;> rfl

namespace Language

/-- Languages with string literals write every text so that it is read back as itself, from no other
escaped text, up to the closing quote of the literal that it stands in and no further. -/
theorem call_string_escapes {l : Language} (hl : l ≠ .plain) :
    (∀ t : Text, l.call "string" [.text t] = .ok (.text (l.literal t)) ∧
      (∀ e, unescapeLiteral? e = some t ↔ e = l.literal t) ∧ IsEscaped (l.literal t) ∧
      ∀ rest, readLiteral? (l.literal t ++ '"' :: rest) = some (t, rest)) ∧
    Function.Injective l.literal := by
  have hliteral : l.literal = escapeLiteral := by
    cases l with
    | plain => exact absurd rfl hl
    | go => rfl
    | python => rfl
  have hcall (t : Text) : l.call "string" [.text t] =
      (Value.text t).expectText.map fun t => .text (l.literal t) := by
    cases l with
    | plain => exact absurd rfl hl
    | go => rfl
    | python => rfl
  refine ⟨fun t => ⟨?_, ?_, ?_, ?_⟩, ?_⟩
  · rw [hcall, Value.expectText_text]
    rfl
  · exact fun e => hliteral ▸ unescapeLiteral?_eq_some_iff
  · exact hliteral ▸ isEscaped_escapeLiteral t
  · exact hliteral ▸ readLiteral?_escapeLiteral t
  · exact hliteral ▸ escapeLiteral_injective

/-- A backslash, a quote, and a backslash at the end. -/
def quotedSlashes : Text := ['\\', '"', '\\']

example : go.literal quotedSlashes = ['\\', '\\', '\\', '"', '\\', '\\'] := by decide

theorem call_string_escapes_quotedSlashes : go ≠ .plain ∧
    go.call "string" [.text quotedSlashes] = .ok (.text (go.literal quotedSlashes)) ∧
    readLiteral? (go.literal quotedSlashes ++ ['"', ')']) = some (quotedSlashes, [')']) := by
  have hl : go ≠ .plain := by decide
  obtain ⟨hcall, -, -, hread⟩ := (call_string_escapes hl).1 quotedSlashes
  exact ⟨hl, hcall, hread [')']⟩

end Language

end Stencil

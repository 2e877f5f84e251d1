import Mathlib.Data.List.Forall2
import Stencil.Proofs.Json.Scalars
import Stencil.Proofs.Text.Lines
import Stencil.Proofs.Value.Entries

namespace Stencil

/-- The values that JSON keeps apart: no binary numbers, and mappings only with texts as keys. -/
inductive Value.IsDocument : Value → Prop
  | null : IsDocument null
  | bool (b : Bool) : IsDocument (bool b)
  | int (n : Int) : IsDocument (int n)
  | text (t : Text) : IsDocument (text t)
  | list {vs : List Value} (items : ∀ v ∈ vs, IsDocument v) : IsDocument (list vs)
  | dict {es : Entries} (keys : es.IsObject) (values : ∀ e ∈ es, IsDocument e.2) :
    IsDocument (dict es)

namespace Json

variable {c : Char} {gap t u rest : Text} {ts : List Text} {v : Value} {vs : List Value}
  {es : Entries} {l : Layout} {depth n : Nat}

section Space

/-- White space only. -/
def IsGap (t : Text) : Prop :=
  ∀ c ∈ t, isSpace c = true

/-- The text goes on behind white space, and with no closing bracket. -/
def StartsItem (t : Text) : Prop :=
  ∃ c u, t = c :: u ∧ isSpace c = false ∧ c ≠ ']' ∧ c ≠ '}'

theorem isGap_lineBreak (l : Layout) (depth : Nat) : IsGap (l.lineBreak depth) := by
  cases l with
  | compact => exact fun _ hc => absurd hc List.not_mem_nil
  | indented width =>
    intro c hc
    rcases List.mem_cons.mp hc with rfl | hc
    · rfl
    · rw [List.eq_of_mem_replicate hc]
      rfl

theorem skipSpace_cons (hc : isSpace c = false) (t : Text) : skipSpace (c :: t) = c :: t :=
  List.dropWhile_cons_of_neg (by simp [hc])

theorem skipSpace_append (hgap : IsGap gap) (t : Text) : skipSpace (gap ++ t) = skipSpace t :=
  List.dropWhile_append_of_pos hgap

theorem StartsItem.append (h : StartsItem t) (rest : Text) : StartsItem (t ++ rest) := by
  obtain ⟨c, u, rfl, hc⟩ := h
  exact ⟨c, u ++ rest, rfl, hc⟩

theorem StartsItem.skipSpace_eq (h : StartsItem t) : skipSpace t = t := by
  obtain ⟨c, u, rfl, hc, -⟩ := h
  exact skipSpace_cons hc u

theorem StartsItem.length_pos (h : StartsItem t) : 0 < t.length := by
  obtain ⟨c, u, rfl, -⟩ := h
  exact Nat.zero_lt_succ _

theorem endsNumber_cons (hc : c ∈ [',', ']', '}', '\n']) (t : Text) : EndsNumber (c :: t) := by
  intro d hd
  cases Option.some.inj hd
  have hall : ∀ c ∈ [',', ']', '}', '\n'],
      Text.isAsciiDigit c = false ∧ c ≠ '.' ∧ c ≠ 'e' ∧ c ≠ 'E' :=
    List.forall_iff_forall_mem.mp (by decide)
  exact hall c hc

theorem endsNumber_lineBreak (l : Layout) (depth : Nat) (hrest : EndsNumber rest) :
    EndsNumber (l.lineBreak depth ++ rest) := by
  cases l with
  | compact => exact hrest
  | indented width => exact endsNumber_cons (by decide) _

end Space

/-- A text from which a value is read, whatever follows it that does not go on with a number. -/
structure Reads (t : Text) (v : Value) : Prop where
  startsItem : StartsItem t
  value?_eq : ∀ {rest n}, EndsNumber rest → t.length ≤ n → value? n (t ++ rest) = some (v, rest)

theorem Reads.of_succ (hstart : StartsItem t) (h : ∀ {rest n}, EndsNumber rest →
    t.length ≤ n + 1 → value? (n + 1) (t ++ rest) = some (v, rest)) : Reads t v where
  startsItem := hstart
  value?_eq {rest n} hrest hn := by
    cases n with
    | zero => exact absurd hstart.length_pos (by omega)
    | succ n => exact h hrest hn

section Scalars

theorem reads_null : Reads "null" .null :=
  .of_succ ⟨'n', "ull".toList, rfl, by decide⟩ fun _ _ => rfl

theorem reads_truth (b : Bool) : Reads (truth b) (.bool b) := by
  cases b with
  | false => exact .of_succ ⟨'f', "alse".toList, rfl, by decide⟩ fun _ _ => rfl
  | true => exact .of_succ ⟨'t', "rue".toList, rfl, by decide⟩ fun _ _ => rfl

theorem reads_ofInt (m : Int) : Reads (Text.ofInt m) (.int m) := by
  obtain ⟨c, t, ht, hc⟩ := exists_ofInt_cons m
  have hne : ∀ d, Text.isAsciiDigit d = false → d ≠ '-' → c ≠ d := by
    rintro d hdigit hminus rfl
    rcases hc with hc | hc
    · rw [hdigit] at hc
      cases hc
    · exact hminus hc
  have hspace : isSpace c = false := by
    simp [isSpace, hne ' ' (by decide) (by decide), hne '\t' (by decide) (by decide),
      hne '\n' (by decide) (by decide), hne '\r' (by decide) (by decide)]
  refine .of_succ ⟨c, t, ht, hspace, hne _ (by decide) (by decide), hne _ (by decide) (by decide)⟩
    fun {rest n} hrest _ => ?_
  have hread := scalar?_ofInt m hrest
  rw [ht] at hread ⊢
  rw [List.cons_append, value?]
  · exact hread
  · exact fun rest h => hne '"' (by decide) (by decide) (List.cons.inj h).1
  · exact fun rest h => hne '[' (by decide) (by decide) (List.cons.inj h).1
  · exact fun rest h => hne '{' (by decide) (by decide) (List.cons.inj h).1

theorem literal_append (s rest : Text) :
    literal s ++ rest = '"' :: (s.flatMap escapeChar ++ '"' :: rest) := by
  simp [literal]

theorem startsItem_literal (s : Text) : StartsItem (literal s) :=
  ⟨'"', _, rfl, by decide⟩

theorem reads_literal (s : Text) : Reads (literal s) (.text s) := by
  refine .of_succ (startsItem_literal s) fun _ _ => ?_
  rw [literal_append, value?, string?_literal]
  rfl

end Scalars

section Blocks

variable {α : Type} {closing : Char} {Is : Text → α → Prop} {as : List α}
  {read? : Nat → Text → Option (List α × Text)}

/-- What the readers of items and of members have in common: an item is read from the front, and the
closing bracket or a comma tells whether it is the last one. -/
structure ReadsItems (closing : Char) (Is : Text → α → Prop)
    (read? : Nat → Text → Option (List α × Text)) : Prop where
  startsItem : ∀ {t a}, Is t a → StartsItem t
  last : ∀ {t a}, Is t a → ∀ {n}, t.length ≤ n → ∀ l depth rest,
    read? (n + 1) (t ++ (Layout.lineBreak l depth ++ closing :: rest)) = some ([a], rest)
  more : ∀ {t a}, Is t a → ∀ {n}, t.length ≤ n → ∀ rest,
    read? (n + 1) (t ++ ',' :: rest) =
      (read? n (skipSpace rest)).map fun (as, rest) => (a :: as, rest)

theorem ReadsItems.startsItem_join (h : ReadsItems closing Is read?) (hts : List.Forall₂ Is ts as)
    (hne : ts ≠ []) (sep rest : Text) : StartsItem (Text.join sep ts ++ rest) := by
  cases hts with
  | nil => exact absurd rfl hne
  | @cons t _ ts _ ht hts =>
    cases ts with
    | nil => simpa [Text.join] using (h.startsItem ht).append rest
    | cons u ts =>
      rw [Text.join_cons_cons]
      exact ((h.startsItem ht).append _).append rest

/-- Items with commas between them are read up to the closing bracket. -/
theorem ReadsItems.join (h : ReadsItems closing Is read?) (hts : List.Forall₂ Is ts as)
    (hne : ts ≠ []) (hgap : IsGap gap) (hn : (Text.join (',' :: gap) ts).length < n)
    (l : Layout) (depth : Nat) (rest : Text) :
    read? n (Text.join (',' :: gap) ts ++ (l.lineBreak depth ++ closing :: rest)) =
      some (as, rest) := by
  induction hts generalizing n with
  | nil => exact absurd rfl hne
  | @cons t a ts as ht hts ih =>
    obtain ⟨n, rfl⟩ := Nat.exists_eq_succ_of_ne_zero (Nat.ne_zero_of_lt hn)
    cases hts with
    | nil =>
      have hjoin : Text.join (',' :: gap) [t] = t := by simp [Text.join]
      rw [hjoin] at hn ⊢
      exact h.last ht (Nat.le_of_lt_succ hn) l depth rest
    | @cons u b ts as hu hts =>
      have hitems := h.startsItem_join (.cons hu hts) (List.cons_ne_nil u ts) (',' :: gap)
        (l.lineBreak depth ++ closing :: rest)
      rw [Text.join_cons_cons] at hn ⊢
      simp only [List.length_append, List.length_cons] at hn
      rw [List.append_assoc, List.append_assoc, List.cons_append, h.more ht (by omega),
        skipSpace_append hgap, hitems.skipSpace_eq, ih (List.cons_ne_nil u ts) (by omega)]
      rfl

theorem readsItems_items? : ReadsItems ']' Reads items? where
  startsItem h := h.startsItem
  last {t v} h {n} hn l depth rest := by
    have hends : EndsNumber (l.lineBreak depth ++ ']' :: rest) :=
      endsNumber_lineBreak l depth (endsNumber_cons (by decide) rest)
    rw [items?, h.value?_eq hends hn]
    simp only [skipSpace_append (isGap_lineBreak l depth), skipSpace_cons (c := ']') rfl]
  more {t v} h {n} hn rest := by
    rw [items?, h.value?_eq (endsNumber_cons (by decide) rest) hn]
    simp only [skipSpace_cons (c := ',') rfl]

/-- A text from which a member is read. -/
def ReadsMember (l : Layout) (t : Text) (e : Key × Value) : Prop :=
  ∃ k u, e.1 = .text k ∧ t = literal k ++ l.colon ++ u ∧ Reads u e.2

theorem exists_colon (l : Layout) : ∃ gap, l.colon = ':' :: gap ∧ IsGap gap := by
  cases l with
  | compact => exact ⟨[], rfl, List.forall_mem_nil _⟩
  | indented width => exact ⟨[' '], rfl, List.forall_mem_singleton.mpr rfl⟩

theorem readsItems_members? (l : Layout) : ReadsItems '}' (ReadsMember l) members? where
  startsItem h := by
    obtain ⟨k, u, -, rfl, -⟩ := h
    exact ((startsItem_literal k).append _).append _
  last {t e} h {n} hn m depth rest := by
    obtain ⟨k, u, hk, rfl, hu⟩ := h
    obtain ⟨k', v⟩ := e
    cases hk
    obtain ⟨gap, hl, hgap⟩ := exists_colon l
    have hends : EndsNumber (m.lineBreak depth ++ '}' :: rest) :=
      endsNumber_lineBreak m depth (endsNumber_cons (by decide) rest)
    have hlength : u.length ≤ n := by simp at hn; omega
    rw [List.append_assoc, List.append_assoc, literal_append, members?, string?_literal]
    simp only [hl, List.cons_append, skipSpace_cons (c := ':') rfl, skipSpace_append hgap,
      (hu.startsItem.append _).skipSpace_eq, hu.value?_eq hends hlength,
      skipSpace_append (isGap_lineBreak m depth), skipSpace_cons (c := '}') rfl]
  more {t e} h {n} hn rest := by
    obtain ⟨k, u, hk, rfl, hu⟩ := h
    obtain ⟨k', v⟩ := e
    cases hk
    obtain ⟨gap, hl, hgap⟩ := exists_colon l
    have hends : EndsNumber (',' :: rest) := endsNumber_cons (by decide) rest
    have hlength : u.length ≤ n := by simp at hn; omega
    rw [List.append_assoc, List.append_assoc, literal_append, members?, string?_literal]
    simp only [hl, List.cons_append, skipSpace_cons (c := ':') rfl, skipSpace_append hgap,
      (hu.startsItem.append _).skipSpace_eq, hu.value?_eq hends hlength,
      skipSpace_cons (c := ',') rfl]

/-- Behind the opening bracket and white space the first item comes. -/
theorem ReadsItems.exists_block (h : ReadsItems closing Is read?) (hts : List.Forall₂ Is ts as)
    (hne : ts ≠ []) (l : Layout) (depth : Nat) (opening : Char) (rest : Text) :
    ∃ t, l.block depth opening closing ts ++ rest = opening :: t ∧ StartsItem (skipSpace t) ∧
      ∀ {n}, (l.block depth opening closing ts).length ≤ n + 1 →
        read? n (skipSpace t) = some (as, rest) := by
  have hempty : ts.isEmpty = false := List.isEmpty_eq_false_iff.mpr hne
  have hgap := isGap_lineBreak l (depth + 1)
  have hitems := h.startsItem_join hts hne (',' :: l.lineBreak (depth + 1))
    (l.lineBreak depth ++ closing :: rest)
  refine ⟨l.lineBreak (depth + 1) ++ (Text.join (',' :: l.lineBreak (depth + 1)) ts ++
    (l.lineBreak depth ++ closing :: rest)), ?_, ?_, fun {n} hn => ?_⟩
  · simp [Layout.block, hempty]
  · rwa [skipSpace_append hgap, hitems.skipSpace_eq]
  · rw [skipSpace_append hgap, hitems.skipSpace_eq]
    refine h.join hts hne hgap ?_ l depth rest
    simp [Layout.block, hempty] at hn
    omega

theorem value?_items (h : StartsItem (skipSpace t)) (n : Nat) : value? (n + 1) ('[' :: t) =
    (items? n (skipSpace t)).map fun (vs, rest) => (.list vs, rest) := by
  obtain ⟨c, u, hu, -, hc, -⟩ := h
  rw [value?, hu]
  split
  next heq => exact absurd (List.cons.inj heq).1 hc
  next => rfl

theorem value?_members (h : StartsItem (skipSpace t)) (n : Nat) : value? (n + 1) ('{' :: t) =
    (members? n (skipSpace t)).map fun (es, rest) => (.dict (Entries.ofList es), rest) := by
  obtain ⟨c, u, hu, -, -, hc⟩ := h
  rw [value?, hu]
  split
  next heq => exact absurd (List.cons.inj heq).1 hc
  next => rfl

theorem startsItem_block (l : Layout) (depth : Nat) {opening : Char} (closing : Char)
    (hopening : isSpace opening = false ∧ opening ≠ ']' ∧ opening ≠ '}') (ts : List Text) :
    StartsItem (l.block depth opening closing ts) := by
  rw [Layout.block]
  split
  next => exact ⟨opening, _, rfl, hopening⟩
  next => exact ⟨opening, _, rfl, hopening⟩

theorem reads_list (h : List.Forall₂ Reads ts vs) (l : Layout) (depth : Nat) :
    Reads (l.block depth '[' ']' ts) (.list vs) := by
  refine .of_succ (startsItem_block l depth ']' (by decide) ts) fun {rest n} _ hn => ?_
  by_cases hne : ts = []
  · subst hne
    cases h
    rfl
  · obtain ⟨t, ht, hstart, hread⟩ := readsItems_items?.exists_block h hne l depth '[' rest
    rw [ht, value?_items hstart, hread hn]
    rfl

theorem reads_dict (h : List.Forall₂ (ReadsMember l) ts es) (hes : Entries.IsObject es)
    (depth : Nat) : Reads (l.block depth '{' '}' ts) (.dict es) := by
  refine .of_succ (startsItem_block l depth '}' (by decide) ts) fun {rest n} _ hn => ?_
  by_cases hne : ts = []
  · subst hne
    cases h
    rfl
  · obtain ⟨t, ht, hstart, hread⟩ := (readsItems_members? l).exists_block h hne l depth '{' rest
    have hsame : Entries.ofList es = es := Entries.ofList_eq_self_iff.mpr hes.isMapping
    rw [ht, value?_members hstart, hread hn]
    simp only [Option.map_some, hsame]

end Blocks

section Values

theorem exists_writeItems (h : ∀ v ∈ vs, ∃ t, write l depth v = .ok t ∧ Reads t v) :
    ∃ ts, writeItems l depth vs = .ok ts ∧ List.Forall₂ Reads ts vs := by
  induction vs with
  | nil => exact ⟨[], rfl, .nil⟩
  | cons v vs ih =>
    obtain ⟨⟨t, ht, hread⟩, hvs⟩ := List.forall_mem_cons.mp h
    obtain ⟨ts, hts, hreads⟩ := ih hvs
    refine ⟨t :: ts, ?_, .cons hread hreads⟩
    rw [writeItems, ht, hts]
    rfl

theorem exists_writeEntries (hes : Entries.IsObject es)
    (h : ∀ e ∈ es, ∃ t, write l depth e.2 = .ok t ∧ Reads t e.2) :
    ∃ ts, writeEntries l depth es = .ok ts ∧ List.Forall₂ (ReadsMember l) ts es := by
  induction es with
  | nil => exact ⟨[], rfl, .nil⟩
  | cons e es ih =>
    obtain ⟨⟨t, ht, hread⟩, hvs⟩ := List.forall_mem_cons.mp h
    obtain ⟨k, v⟩ := e
    obtain ⟨s, rfl⟩ := hes.text k List.mem_cons_self
    obtain ⟨ts, hts, hreads⟩ := ih hes.tail hvs
    refine ⟨(literal s ++ l.colon ++ t) :: ts, ?_, .cons ⟨s, t, rfl, rfl, hread⟩ hreads⟩
    rw [writeEntries, ht, hts]
    rfl

/-- A document is written at every depth and in either layout, and read back from there. -/
theorem exists_write (h : v.IsDocument) (l : Layout) (depth : Nat) :
    ∃ t, write l depth v = .ok t ∧ Reads t v := by
  induction h generalizing depth with
  | null => exact ⟨_, rfl, reads_null⟩
  | bool b => exact ⟨_, rfl, reads_truth b⟩
  | int n => exact ⟨_, rfl, reads_ofInt n⟩
  | text t => exact ⟨_, rfl, reads_literal t⟩
  | list _ ih =>
    obtain ⟨ts, hts, hreads⟩ := exists_writeItems fun v hv => ih v hv (depth + 1)
    exact ⟨_, by rw [write, hts]; rfl, reads_list hreads l depth⟩
  | dict keys _ ih =>
    obtain ⟨ts, hts, hreads⟩ := exists_writeEntries keys fun e he => ih e he (depth + 1)
    exact ⟨_, by rw [write, hts]; rfl, reads_dict hreads keys depth⟩

theorem Reads.parse?_eq (h : Reads t v) : parse? t = some v := by
  have hnothing : EndsNumber [] := fun _ hc => absurd hc (Option.not_mem_none _)
  have hread := h.value?_eq (n := 2 * t.length + 1) hnothing (by omega)
  rw [List.append_nil] at hread
  rw [parse?, h.startsItem.skipSpace_eq, hread]
  rfl

end Values

end Json

end Stencil

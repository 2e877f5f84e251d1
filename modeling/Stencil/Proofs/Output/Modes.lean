import Stencil.Proofs.Output.Opening

namespace Stencil

namespace WriteMode

theorem eq_of_head?_token {m n : WriteMode} (h : m.token.head? = n.token.head?) : m = n := by
  revert h
  cases m <;> cases n <;> decide

theorem exists_token_eq_cons (m : WriteMode) : ∃ c t, m.token = c :: t := by
  cases m <;> exact ⟨_, _, rfl⟩

theorem mem_all (m : WriteMode) : m ∈ all := by
  cases m <;> decide

end WriteMode

namespace Directive

variable {mode other : WriteMode} {before t : Text}

/-- The second field of a header, and nothing if there is none. -/
def modeField (header : Text) : Text :=
  ((fields header)[1]?).getD []

/-- The text ends in a word. -/
def EndsInWord (t : Text) : Prop :=
  ∃ c ∈ t.getLast?, Text.isWordChar c

instance (t : Text) : Decidable (EndsInWord t) :=
  Option.decidableExistsMem t.getLast?

/-- The text begins with a word. -/
def BeginsWithWord (t : Text) : Prop :=
  ∃ c ∈ t.head?, Text.isWordChar c

instance (t : Text) : Decidable (BeginsWithWord t) :=
  Option.decidableExistsMem t.head?

/-- The mode's token stands behind the first part of a text as a word of its own. -/
def HasWord (mode : WriteMode) (before t : Text) : Prop :=
  ∃ behind, t = before ++ (mode.token ++ behind) ∧ ¬ EndsInWord before ∧ ¬ BeginsWithWord behind

/-- The mode's token is the first that stands in a text as a word of its own. -/
def AsksFor (t : Text) (mode : WriteMode) : Prop :=
  ∃ before, HasWord mode before t ∧
    ∀ other before', HasWord other before' t → before.length ≤ before'.length

theorem wordAhead_iff :
    wordAhead mode.token t = true ↔ ∃ behind, t = mode.token ++ behind ∧ ¬ BeginsWithWord behind := by
  rw [wordAhead]
  constructor
  · intro h
    split at h
    next hafter => exact ⟨[], Text.after?_eq_some_iff.mp hafter, by simp [BeginsWithWord]⟩
    next c behind hafter =>
      exact ⟨c :: behind, Text.after?_eq_some_iff.mp hafter, by simpa [BeginsWithWord] using h⟩
    next => cases h
  · rintro ⟨behind, rfl, hbehind⟩
    rw [Text.after?_eq_some_iff.mpr rfl]
    cases behind with
    | nil => rfl
    | cons c behind => simpa [BeginsWithWord] using hbehind

theorem hasWord_append_iff {read rest : Text} :
    HasWord mode read (read ++ rest) ↔ ¬ EndsInWord read ∧ wordAhead mode.token rest = true := by
  rw [wordAhead_iff]
  constructor
  · rintro ⟨behind, heq, hread, hbehind⟩
    exact ⟨hread, behind, List.append_cancel_left heq, hbehind⟩
  · rintro ⟨hread, behind, rfl, hbehind⟩
    exact ⟨behind, rfl, hread, hbehind⟩

theorem HasWord.eq_of_prefix (h : HasWord mode before t) {read : Text} (hread : read <+: t)
    (hlen : read.length = before.length) : before = read := by
  obtain ⟨behind, rfl, -⟩ := h
  exact ((List.prefix_of_prefix_length_le hread (List.prefix_append _ _) hlen.le).eq_of_length
    hlen).symm

/-- Tokens begin with different letters, so no two stand in one place. -/
theorem HasWord.mode_unique (h : HasWord mode before t) (h' : HasWord other before t) :
    mode = other := by
  obtain ⟨behind, rfl, -⟩ := h
  obtain ⟨behind', heq, -⟩ := h'
  have hhead := congrArg List.head? (List.append_cancel_left heq)
  obtain ⟨c, s, hmode⟩ := mode.exists_token_eq_cons
  obtain ⟨c', s', hother⟩ := other.exists_token_eq_cons
  refine WriteMode.eq_of_head?_token ?_
  simpa [hmode, hother] using hhead

theorem length_lt_of_hasWord (h : HasWord mode before t) : before.length < t.length := by
  obtain ⟨behind, rfl, -⟩ := h
  obtain ⟨c, s, hmode⟩ := mode.exists_token_eq_cons
  simp [hmode]

/-- What a search finds that has read a part of a text: the first token behind this part that stands as
a word of its own, if there is one. -/
theorem modeFrom_cases (read rest : Text) :
    (∃ mode before, modeFrom (decide (EndsInWord read)) rest = some mode ∧
      HasWord mode before (read ++ rest) ∧
      ∀ other before', HasWord other before' (read ++ rest) → read.length ≤ before'.length →
        before.length ≤ before'.length) ∨
    modeFrom (decide (EndsInWord read)) rest = none ∧
      ∀ other before', HasWord other before' (read ++ rest) → ¬ read.length ≤ before'.length := by
  induction rest generalizing read with
  | nil =>
    refine Or.inr ⟨rfl, fun other before' hword => ?_⟩
    have hlt := length_lt_of_hasWord hword
    rw [List.append_nil] at hlt
    exact Nat.not_le.mpr hlt
  | cons c rest ih =>
    have hends : decide (EndsInWord (read ++ [c])) = Text.isWordChar c := by simp [EndsInWord]
    have hsplit : read ++ [c] ++ rest = read ++ c :: rest := by simp
    have hrest := ih (read ++ [c])
    rw [hsplit, hends] at hrest
    rw [modeFrom]
    split
    next mode hfound =>
      have hhere : HasWord mode read (read ++ c :: rest) := by
        rw [hasWord_append_iff]
        split at hfound
        next => cases hfound
        next hread => exact ⟨by simpa using hread, by simpa using List.find?_some hfound⟩
      exact Or.inl ⟨mode, read, rfl, hhere, fun _ _ _ hlen => hlen⟩
    next hnone =>
      have hhere : ∀ other before', HasWord other before' (read ++ c :: rest) →
          read.length ≤ before'.length → (read ++ [c]).length ≤ before'.length := by
        intro other before' hword hlen
        rw [List.length_append, List.length_singleton]
        refine Nat.lt_of_le_of_ne hlen fun heq => ?_
        rw [hword.eq_of_prefix (List.prefix_append _ _) heq, hasWord_append_iff] at hword
        rw [if_neg (by simpa using hword.1), List.find?_eq_none] at hnone
        exact hnone other other.mem_all hword.2
      rcases hrest with ⟨mode, before, hfound, hword, hfirst⟩ | ⟨hnone, hall⟩
      · exact Or.inl ⟨mode, before, hfound, hword, fun other before' hword' hlen =>
          hfirst other before' hword' (hhere other before' hword' hlen)⟩
      · exact Or.inr ⟨hnone, fun other before' hword hlen =>
          hall other before' hword (hhere other before' hword hlen)⟩

theorem AsksFor.unique (h : AsksFor t mode) (h' : AsksFor t other) : mode = other := by
  obtain ⟨before, hword, hfirst⟩ := h
  obtain ⟨before', hword', hfirst'⟩ := h'
  have hlen := Nat.le_antisymm (hfirst _ _ hword') (hfirst' _ _ hword)
  have hprefix : before' <+: t := by
    obtain ⟨behind, rfl, -⟩ := hword'
    exact List.prefix_append _ _
  have heq := hword.eq_of_prefix hprefix hlen.symm
  exact hword.mode_unique (heq ▸ hword')

/-- A text asks for the mode of the first token in it, and for the usual mode if no token stands in it
as a word of its own. -/
theorem parseMode_eq_iff :
    parseMode t = mode ↔
      AsksFor t mode ∨ mode = .writeAlways ∧ ∀ other before, ¬ HasWord other before t := by
  have hcases := modeFrom_cases [] t
  have hstart : decide (EndsInWord []) = false := by decide
  simp only [hstart, List.nil_append, List.length_nil, Nat.zero_le, not_true_eq_false,
    forall_const] at hcases
  rw [parseMode]
  rcases hcases with ⟨found, before, hfound, hword, hfirst⟩ | ⟨hnone, hall⟩
  · have hasks : AsksFor t found := ⟨before, hword, hfirst⟩
    rw [hfound, Option.getD_some]
    constructor
    · rintro rfl
      exact Or.inl hasks
    · rintro (h | ⟨-, h⟩)
      · exact hasks.unique h
      · exact absurd hword (h found before)
  · rw [hnone, Option.getD_none]
    constructor
    · rintro rfl
      exact Or.inr ⟨rfl, hall⟩
    · rintro (⟨before, hword, -⟩ | ⟨rfl, -⟩)
      · exact absurd hword (hall mode before)
      · rfl

end Directive

namespace Splitter

/-- A segment that was opened by a header is to be skipped if the header asks for that. -/
theorem mode_eq_skip_iff {d : Text} {history : List Call} {c : Option Text × Segment}
    (h : c ∈ closings d history) :
    c.2.mode = .skip ↔ ∃ header ∈ c.1, Directive.AsksFor (Directive.modeField header) .skip := by
  obtain ⟨before, -, rfl⟩ := exists_of_mem_closings h
  have hstarted : (segmentAt d before).mode = (startedBy d (opening before)).mode := by
    rw [segmentAt_eq]
  rw [hstarted]
  cases opening before with
  | none => simp [startedBy]
  | some header =>
    have hmode : (Segment.ofHeader header).mode = .skip ↔
        Directive.AsksFor (Directive.modeField header) .skip := by
      refine Directive.parseMode_eq_iff.trans (or_iff_left ?_)
      rintro ⟨hskip, -⟩
      cases hskip
    simpa [startedBy] using hmode

/-- A header opens a segment in the mode of the first token that stands in its second field as a word of
its own, and in the usual mode if there is none. When a text is split, a segment with something to see
is dropped only if the first such token in the second field of its header is the one for skipping. -/
theorem mode_of_first_word (hook : Text → Text → Text) (d : Text) :
    (∀ (s : Splitter) (line header : Text) (mode : WriteMode),
      (Call.feed line).header? = some header →
      ((s.feed hook line).segment.mode = mode ↔
        Directive.AsksFor (Directive.modeField header) mode ∨ mode = .writeAlways ∧
          ∀ other before, ¬ Directive.HasWord other before (Directive.modeField header))) ∧
    ∀ source,
      splitFiles d source hook =
        ((closings d (calls source)).filter fun c => c.2.isKept).map (fun c => c.2.close hook) ∧
      ∀ c ∈ closings d (calls source), c.2.isBlank = false →
        (c.2.isKept = false ↔
          ∃ header ∈ c.1, Directive.AsksFor (Directive.modeField header) .skip) := by
  constructor
  · intro s line header mode hheader
    have hopened : (step hook s (.feed line)).segment = Segment.ofHeader header := by
      rw [step_segment, hheader]
    rw [step] at hopened
    rw [hopened]
    exact Directive.parseMode_eq_iff
  · intro source
    refine ⟨splitFiles_eq_closings hook d source, fun c hc hblank => ?_⟩
    rw [← mode_eq_skip_iff hc, Segment.isKept, hblank]
    simp

/-- Tokens inside a longer word do not count. -/
theorem mode_of_first_word_merge :
    ((start "index").feed keepBody
        "// #FILENAME: a.txt : unskipped_merge, merge or skip".toList).segment.mode = .merge ∧
      Directive.AsksFor "unskipped_merge, merge or skip".toList .merge := by
  obtain ⟨hmodes, -⟩ := mode_of_first_word keepBody "index"
  have hmode : ((start "index").feed keepBody
      "// #FILENAME: a.txt : unskipped_merge, merge or skip".toList).segment.mode = .merge := by
    decide
  rcases (hmodes (start "index") "// #FILENAME: a.txt : unskipped_merge, merge or skip"
    " a.txt : unskipped_merge, merge or skip" .merge (by decide)).mp hmode with hasks | ⟨heq, -⟩
  · exact ⟨hmode, hasks⟩
  · cases heq

/-- Words around a token do not change what it asks for. -/
theorem splitFiles_drops_other_field :
    (Call.feed "#FILENAME:a.txt:no-skip".toList).header? = some "a.txt:no-skip".toList ∧
      Directive.modeField "a.txt:no-skip".toList ≠ WriteMode.skip.token ∧
      ((start "index").feed keepBody "#FILENAME:a.txt:no-skip".toList).segment.mode = .skip ∧
      splitFiles "index" "#FILENAME:a.txt:no-skip\nx".toList = [] := by
  decide

end Splitter

end Stencil

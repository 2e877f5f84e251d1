import Mathlib.Data.List.DropRight
import Mathlib.Data.List.Induction
import Stencil.Output.Directive
import Stencil.Proofs.Text.Cut

namespace Stencil

theorem Directive.header?_eq_none_iff {line : Text} :
    header? line = none ↔ ¬ marker <:+: line := by
  simp [header?, Text.cut?_eq_none_iff]

theorem Segment.isKept_iff {s : Segment} :
    s.isKept = true ↔ s.mode ≠ .skip ∧ ∃ line ∈ s.lines, ∃ c ∈ line, ¬ Text.isBlankChar c := by
  simp [isKept, isBlank, Text.isBlank]

namespace Splitter

/-- What can be asked of a splitter. -/
inductive Call
  | feed (line : Text)
  | finish
  deriving DecidableEq

namespace Call

/-- The header that a call opens a segment with: it stands behind the first marker of a fed line
and is not blank. -/
def header? : Call → Option Text
  | feed line => (Directive.header? line).filter fun header => !Text.isBlank header
  | finish => none

/-- The open segment is closed by a call that opens another and by a call for the result. -/
def closes (c : Call) : Bool :=
  c = finish || c.header?.isSome

/-- The line that a call adds to the open segment. -/
def content? : Call → Option Text
  | feed line => if Directive.marker <:+: line then none else some line
  | finish => none

theorem content?_of_header? {c : Call} {header : Text} (h : c.header? = some header) :
    c.content? = none := by
  cases c with
  | finish => rfl
  | feed line =>
    have hm : Directive.header? line ≠ none := by
      intro hn
      simp [Call.header?, hn] at h
    rw [Ne, Directive.header?_eq_none_iff, not_not] at hm
    simp [content?, hm]

end Call

/-- One call. -/
def step (hook : Text → Text → Text) (s : Splitter) : Call → Splitter
  | .feed line => s.feed hook line
  | .finish => (s.finish hook).2

/-- All calls of a history, in order. -/
def run (hook : Text → Text → Text) (s : Splitter) (history : List Call) : Splitter :=
  history.foldl (step hook) s

/-- The segment that is open after a history: the last header opened it, and it holds the unmarked
lines fed since. -/
def segmentAt (defaultFilename : Text) (history : List Call) : Segment :=
  { (match (history.filterMap Call.header?).getLast? with
      | some header => Segment.ofHeader header
      | none => { filename := defaultFilename }) with
    lines := (history.rtakeWhile fun c => c.header?.isNone).filterMap Call.content? }

/-- The segments that calls of a history closed, in order. -/
def closed (defaultFilename : Text) (history : List Call) : List Segment :=
  (List.range history.length).filterMap fun i =>
    if history[i]?.any Call.closes then some (segmentAt defaultFilename (history.take i)) else none

section

variable {hook : Text → Text → Text} {d : Text}

theorem segmentAt_snoc (history : List Call) (c : Call) :
    segmentAt d (history ++ [c]) =
      match c.header? with
      | some header => Segment.ofHeader header
      | none =>
        { segmentAt d history with lines := (segmentAt d history).lines ++ c.content?.toList } := by
  cases h : c.header? with
  | some header =>
    have hr : (history ++ [c]).rtakeWhile (fun c => c.header?.isNone) = [] := by
      rw [List.rtakeWhile_concat_neg]
      simp [h]
    simp [segmentAt, hr, h, Segment.ofHeader]
  | none =>
    have hr : (history ++ [c]).rtakeWhile (fun c => c.header?.isNone) =
        history.rtakeWhile (fun c => c.header?.isNone) ++ [c] := by
      rw [List.rtakeWhile_concat_pos]
      simp [h]
    cases hc : c.content? <;> simp [segmentAt, hr, h, hc]

theorem closed_snoc (history : List Call) (c : Call) :
    closed d (history ++ [c]) =
      closed d history ++ if c.closes then [segmentAt d history] else [] := by
  have hold : ∀ i ∈ List.range history.length,
      (if (history ++ [c])[i]?.any Call.closes then some (segmentAt d ((history ++ [c]).take i))
        else none) =
      if history[i]?.any Call.closes then some (segmentAt d (history.take i)) else none := by
    intro i hi
    have hlt := List.mem_range.mp hi
    rw [List.getElem?_append_left hlt, List.take_append_of_le_length hlt.le]
  simp only [closed, List.length_append, List.length_singleton, List.range_succ,
    List.filterMap_append, List.filterMap_congr hold]
  by_cases hc : c.closes <;> simp [hc]

theorem run_snoc (s : Splitter) (history : List Call) (c : Call) :
    run hook s (history ++ [c]) = step hook (run hook s history) c := by
  simp [run]

theorem run_append (s : Splitter) (history later : List Call) :
    run hook s (history ++ later) = run hook (run hook s history) later := by
  simp [run]

theorem flush_segment (s : Splitter) : (s.flush hook).segment = s.segment := by
  unfold flush
  split <;> rfl

theorem flush_files (s : Splitter) :
    (s.flush hook).files =
      s.files ++ ([s.segment].filter Segment.isKept).map (Segment.close hook) := by
  by_cases h : s.segment.isKept <;> simp [flush, h]

/-- A fed line without the marker is collected; one with a header opens a segment; any other
changes nothing. -/
theorem step_feed (s : Splitter) (line : Text) :
    step hook s (.feed line) =
      match (Call.feed line).header? with
      | some header => { s.flush hook with segment := Segment.ofHeader header }
      | none => { s with
          segment := { s.segment with
            lines := s.segment.lines ++ (Call.feed line).content?.toList } } := by
  cases h : Directive.header? line with
  | none =>
    have hm := Directive.header?_eq_none_iff.mp h
    simp [step, feed, h, Call.header?, Call.content?, hm]
  | some header =>
    have hm : Directive.marker <:+: line := by
      by_contra hm
      simp [Directive.header?_eq_none_iff.mpr hm] at h
    by_cases hb : Text.isBlank header
    · have hc : (Call.feed line).header? = none := by simp [Call.header?, h, hb]
      simp [step, feed, h, hb, hc, Call.content?, hm]
    · have hc : (Call.feed line).header? = some header := by simp [Call.header?, h, hb]
      simp [step, feed, h, hb, hc]

theorem step_segment (s : Splitter) (c : Call) :
    (step hook s c).segment =
      match c.header? with
      | some header => Segment.ofHeader header
      | none => { s.segment with lines := s.segment.lines ++ c.content?.toList } := by
  cases c with
  | finish => simp [step, finish, flush_segment, Call.header?, Call.content?]
  | feed line =>
    rw [step_feed]
    cases (Call.feed line).header? <;> rfl

theorem step_files (s : Splitter) (c : Call) :
    (step hook s c).files =
      s.files ++ ((if c.closes then [s.segment] else []).filter Segment.isKept).map
        (Segment.close hook) := by
  cases c with
  | finish => simp [step, finish, flush_files, Call.closes]
  | feed line =>
    rw [step_feed]
    cases h : (Call.feed line).header? with
    | none => simp [Call.closes, h]
    | some header => simp [Call.closes, h, flush_files]

/-- The segment that is open is told by the history. -/
theorem run_segment (history : List Call) :
    (run hook (start d) history).segment = segmentAt d history := by
  induction history using List.reverseRecOn with
  | nil => rfl
  | append_singleton history c ih => rw [run_snoc, step_segment, segmentAt_snoc, ih]

/-- The files so far are those of the segments that the history closed. -/
theorem run_files (history : List Call) :
    (run hook (start d) history).files =
      ((closed d history).filter Segment.isKept).map (Segment.close hook) := by
  induction history using List.reverseRecOn with
  | nil => rfl
  | append_singleton history c ih =>
    rw [run_snoc, step_files, run_segment, ih, closed_snoc, List.filter_append, List.map_append]

theorem files_prefix_run (s : Splitter) (later : List Call) :
    s.files <+: (run hook s later).files := by
  induction later using List.reverseRecOn with
  | nil => exact List.prefix_rfl
  | append_singleton later c ih =>
    rw [run_snoc, step_files]
    exact ih.trans (List.prefix_append _ _)

theorem not_infix_of_mem_segmentAt {history : List Call} {line : Text}
    (h : line ∈ (segmentAt d history).lines) : ¬ Directive.marker <:+: line := by
  obtain ⟨c, _, hc⟩ := List.mem_filterMap.mp h
  cases c with
  | finish => simp [Call.content?] at hc
  | feed l =>
    by_cases hm : Directive.marker <:+: l
    · simp [Call.content?, hm] at hc
    · simp only [Call.content?, hm, if_false, Option.some.injEq] at hc
      exact hc ▸ hm

/-- As long as the result is not asked for, each content line is in one segment, in order. -/
theorem closed_lines_append {history : List Call} (h : Call.finish ∉ history) :
    (closed d history).flatMap Segment.lines ++ (segmentAt d history).lines =
      history.filterMap Call.content? := by
  induction history using List.reverseRecOn with
  | nil => rfl
  | append_singleton history c ih =>
    simp only [List.mem_append, List.mem_singleton, not_or] at h
    rw [closed_snoc, segmentAt_snoc, List.filterMap_append, ← ih h.1]
    cases hc : c.header? with
    | none =>
      have hopen : c.closes = false := by simp [Call.closes, hc, Ne.symm h.2]
      cases hl : c.content? <;> simp [hopen, hl]
    | some header =>
      simp [Call.closes, hc, Call.content?_of_header? hc, Segment.ofHeader]

/-- A marked line without a header changes nothing. -/
theorem step_malformed (s : Splitter) {line : Text} (hm : Directive.marker <:+: line)
    (h : (Call.feed line).header? = none) : step hook s (.feed line) = s := by
  rw [step_feed, h]
  simp [Call.content?, hm]

end

/-- The calls by which a text is split. -/
def calls (source : Text) : List Call :=
  (Text.lines source).map Call.feed ++ [.finish]

theorem splitFiles_eq_run (hook : Text → Text → Text) (d source : Text) :
    splitFiles d source hook = (run hook (start d) (calls source)).files := by
  rw [calls, run_snoc, run, List.foldl_map]
  rfl

theorem closed_calls_lines (d source : Text) :
    (closed d (calls source)).flatMap Segment.lines =
      (Text.lines source).filter fun line => ¬ Directive.marker <:+: line := by
  have hfed : Call.finish ∉ (Text.lines source).map Call.feed := by simp
  have hlast : ∀ history, closed d (history ++ [.finish]) = closed d history ++ [segmentAt d history] :=
    fun history => closed_snoc history .finish
  rw [calls, hlast, List.flatMap_append, List.flatMap_singleton, closed_lines_append hfed,
    List.filterMap_map, ← List.filterMap_eq_filter]
  apply List.filterMap_congr
  intro line _
  by_cases hm : Directive.marker <:+: line <;> simp [Call.content?, Option.guard, hm]

/-- Whatever was asked of a splitter, its next result is one file for each segment that a call has
closed and that is to be kept, and the result does not change later. The segments hold the lines
without the marker; malformed lines change nothing. When a text is split, each line without the
marker is in one segment, in order. -/
theorem finish_eq_closed_files (hook : Text → Text → Text) (d : Text) (history : List Call) :
    ((run hook (start d) history).finish hook).1 =
      ((closed d (history ++ [.finish])).filter Segment.isKept).map (Segment.close hook) ∧
    (∀ s ∈ closed d (history ++ [.finish]), ∀ line ∈ s.lines, ¬ Directive.marker <:+: line) ∧
    (∀ line, Directive.marker <:+: line → (Call.feed line).header? = none →
      run hook (start d) (history ++ [.feed line]) = run hook (start d) history) ∧
    (∀ later, (run hook (start d) history).files <+:
      (run hook (start d) (history ++ later)).files) ∧
    (∀ source, splitFiles d source hook =
        ((closed d (calls source)).filter Segment.isKept).map (Segment.close hook) ∧
      (closed d (calls source)).flatMap Segment.lines =
        (Text.lines source).filter fun line => ¬ Directive.marker <:+: line) := by
  refine ⟨?_, ?_, ?_, ?_, ?_⟩
  · rw [← run_files, run_snoc]
    rfl
  · intro s hs line hl
    obtain ⟨i, _, hi⟩ := List.mem_filterMap.mp hs
    split at hi
    next => exact not_infix_of_mem_segmentAt (Option.some.inj hi ▸ hl)
    next => simp at hi
  · intro line hm h
    rw [run_snoc, step_malformed _ hm h]
  · intro later
    rw [run_append]
    exact files_prefix_run _ later
  · intro source
    exact ⟨by rw [splitFiles_eq_run, run_files], closed_calls_lines d source⟩

/-- A result leaves the segment open, so the next one repeats it with what came in between. -/
example :
    ((run keepBody (start "x") [.feed "a", .feed "#FILENAME: ", .finish, .feed "b"]).finish keepBody).1 =
      [⟨"x", "a", .writeAlways, "644"⟩, ⟨"x", "a\nb", .writeAlways, "644"⟩] := by
  decide

end Splitter

end Stencil

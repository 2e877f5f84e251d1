import Stencil.Proofs.Output.History
import Stencil.Proofs.Text.Lines

namespace Stencil

namespace Directive

/-- Something can be seen in front of the header's first colon. -/
def NamesFile (header : Text) : Prop :=
  ∃ c ∈ header.takeWhile (· ≠ ':'), ¬ Text.isBlankChar c

instance (header : Text) : Decidable (NamesFile header) :=
  List.decidableBEx (fun c => ¬ Text.isBlankChar c) (header.takeWhile (· ≠ ':'))

theorem fields_getElem?_zero (header : Text) :
    (fields header)[0]? = some (Text.strip (header.takeWhile (· ≠ ':'))) := by
  have hkept : ∀ t : Text, ':' ∉ t → ∀ c ∈ t, decide (c ≠ ':') = true :=
    fun t ht c hc => decide_eq_true (ne_of_mem_of_not_mem hc ht)
  by_cases hcolon : ':' ∈ header
  · obtain ⟨name, rest, rfl, hname⟩ := List.eq_append_cons_of_mem hcolon
    have htake : (name ++ ':' :: rest).takeWhile (· ≠ ':') = name := by
      rw [List.takeWhile_append_of_pos (hkept name hname)]
      simp
    rw [fields, List.splitOn_append_cons_self_of_not_mem hname, htake]
    rfl
  · have htake : header.takeWhile (· ≠ ':') = header :=
      List.takeWhile_eq_self_iff.mpr (hkept header hcolon)
    rw [fields, List.splitOn_eq_singleton hcolon, htake]
    rfl

end Directive

theorem Segment.filename_ofHeader (header : Text) :
    (ofHeader header).filename = Text.strip (header.takeWhile (· ≠ ':')) := by
  rw [ofHeader, Directive.fields_getElem?_zero]
  rfl

theorem Segment.exists_visible_ofHeader_iff (header : Text) :
    (∃ c ∈ (ofHeader header).filename, ¬ Text.isBlankChar c) ↔ Directive.NamesFile header := by
  rw [filename_ofHeader]
  constructor
  · rintro ⟨c, hc, hvisible⟩
    exact ⟨c, Text.trim_subset _ _ hc, hvisible⟩
  · rintro ⟨c, hc, hvisible⟩
    exact ⟨c, Text.mem_trim hc (Bool.eq_false_iff.mpr hvisible), hvisible⟩

namespace Splitter

/-- The header that opened the segment which is open after a history. None opened the first. -/
def opening (history : List Call) : Option Text :=
  (history.filterMap Call.header?).getLast?

/-- The segment that a header opens, or the one that is open from the start. -/
def startedBy (defaultFilename : Text) : Option Text → Segment
  | some header => Segment.ofHeader header
  | none => { filename := defaultFilename }

/-- The segments that calls of a history closed, in order, each with the header that opened it. -/
def closings (defaultFilename : Text) (history : List Call) : List (Option Text × Segment) :=
  (List.range history.length).filterMap fun i =>
    if history[i]?.any Call.closes then
      some (opening (history.take i), segmentAt defaultFilename (history.take i))
    else none

section

variable {hook : Text → Text → Text} {d source header : Text} {history : List Call}
  {c : Option Text × Segment}

theorem segmentAt_eq (d : Text) (history : List Call) :
    segmentAt d history =
      { startedBy d (opening history) with lines := (segmentAt d history).lines } := by
  rw [segmentAt, opening]
  cases (history.filterMap Call.header?).getLast? <;> rfl

theorem closed_eq_map_closings (d : Text) (history : List Call) :
    closed d history = (closings d history).map Prod.snd := by
  rw [closed, closings, List.map_filterMap]
  refine List.filterMap_congr fun i _ => ?_
  split <;> rfl

theorem exists_of_mem_closings (h : c ∈ closings d history) :
    ∃ before, before <+: history ∧ c = (opening before, segmentAt d before) := by
  obtain ⟨i, -, hi⟩ := List.mem_filterMap.mp h
  split at hi
  next => exact ⟨_, List.take_prefix i history, (Option.some.inj hi).symm⟩
  next => cases hi

/-- A text is split into the segments that are to be kept among those that are closed. -/
theorem splitFiles_eq_closings (hook : Text → Text → Text) (d source : Text) :
    splitFiles d source hook =
      ((closings d (calls source)).filter fun c => c.2.isKept).map fun c => c.2.close hook := by
  rw [splitFiles_eq_run, run_files, closed_eq_map_closings, List.filter_map, List.map_map]
  rfl

theorem exists_line_of_opening {before : List Call} (hbefore : before <+: calls source)
    (h : opening before = some header) :
    ∃ line ∈ Text.lines source, (Call.feed line).header? = some header := by
  obtain ⟨call, hcall, hheader⟩ := List.mem_filterMap.mp (List.mem_of_getLast? h)
  rcases List.mem_append.mp (hbefore.subset hcall) with hfed | hfinish
  · obtain ⟨line, hline, rfl⟩ := List.mem_map.mp hfed
    exact ⟨line, hline, hheader⟩
  · rw [List.mem_singleton.mp hfinish] at hheader
    cases hheader

/-- With a default name that can be seen, a file has such a name if its header names one. -/
theorem exists_visible_filename_iff (hd : ∃ x ∈ d, ¬ Text.isBlankChar x)
    (h : c ∈ closings d history) :
    (∃ x ∈ c.2.filename, ¬ Text.isBlankChar x) ↔
      ∀ header ∈ c.1, Directive.NamesFile header := by
  obtain ⟨before, -, rfl⟩ := exists_of_mem_closings h
  have hname : (segmentAt d before).filename = (startedBy d (opening before)).filename := by
    rw [segmentAt_eq]
  rw [hname]
  cases opening before with
  | none => simpa [startedBy] using hd
  | some header => simpa [startedBy] using Segment.exists_visible_ofHeader_iff header

/-- A text is split into files whose names can be seen, but for those under a header with nothing to
see in front of its first colon. If no line of the text has such a header, all names can be seen. -/
theorem splitFiles_visible_filenames (hd : ∃ x ∈ d, ¬ Text.isBlankChar x)
    (hook : Text → Text → Text) (source : Text) :
    splitFiles d source hook =
        ((closings d (calls source)).filter fun c => c.2.isKept).map (fun c => c.2.close hook) ∧
      (∀ c ∈ closings d (calls source),
        (∃ x ∈ (c.2.close hook).filename, ¬ Text.isBlankChar x) ↔
          ∀ header ∈ c.1, Directive.NamesFile header) ∧
      ((∀ line ∈ Text.lines source, ∀ header ∈ (Call.feed line).header?,
          Directive.NamesFile header) →
        ∀ f ∈ splitFiles d source hook, ∃ x ∈ f.filename, ¬ Text.isBlankChar x) := by
  have hfiles := splitFiles_eq_closings hook d source
  refine ⟨hfiles, fun c hc => exists_visible_filename_iff hd hc, ?_⟩
  intro hnamed f hf
  rw [hfiles] at hf
  obtain ⟨c, hkept, rfl⟩ := List.mem_map.mp hf
  have hc := (List.mem_filter.mp hkept).1
  refine (exists_visible_filename_iff hd hc).mpr fun header hheader => ?_
  obtain ⟨before, hbefore, rfl⟩ := exists_of_mem_closings hc
  obtain ⟨line, hline, hfed⟩ := exists_line_of_opening hbefore hheader
  exact hnamed line hline header hfed

/-- A header without a name between two with one. -/
theorem splitFiles_visible_filenames_middle :
    (∃ x ∈ "index.txt".toList, ¬ Text.isBlankChar x) ∧
      splitFiles "index.txt" "a\n#FILENAME: b :merge\nb\n#FILENAME: :merge:600\nc".toList =
        [⟨"index.txt", "a", .writeAlways, "644"⟩, ⟨"b", "b", .merge, "644"⟩,
          ⟨"", "c", .merge, "600"⟩] ∧
      ∀ c ∈ closings "index.txt"
          (calls "a\n#FILENAME: b :merge\nb\n#FILENAME: :merge:600\nc".toList),
        (∃ x ∈ (c.2.close keepBody).filename, ¬ Text.isBlankChar x) ↔
          ∀ header ∈ c.1, Directive.NamesFile header := by
  have hd : ∃ x ∈ "index.txt".toList, ¬ Text.isBlankChar x := ⟨'i', by decide, by decide⟩
  obtain ⟨-, hnames, -⟩ := splitFiles_visible_filenames hd keepBody
    "a\n#FILENAME: b :merge\nb\n#FILENAME: :merge:600\nc".toList
  exact ⟨hd, by decide, hnames⟩

/-- A header that asks for a mode, but names no file. -/
theorem splitFiles_blank_filename :
    (∃ x ∈ "index.txt".toList, ¬ Text.isBlankChar x) ∧
      (⟨"", "x", .merge, "644"⟩ : GeneratedFile) ∈
        splitFiles "index.txt" "#FILENAME::merge\nx".toList ∧
      ¬ ∃ x ∈ (⟨"", "x", .merge, "644"⟩ : GeneratedFile).filename, ¬ Text.isBlankChar x :=
  ⟨⟨'i', by decide, by decide⟩, by decide, fun ⟨_, hmem, _⟩ => List.not_mem_nil hmem⟩

end

end Splitter

end Stencil

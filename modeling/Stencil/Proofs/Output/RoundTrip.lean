import Stencil.Proofs.Output.History
import Stencil.Proofs.Text.Lines
import Stencil.Proofs.Text.Numeral

namespace Stencil

namespace GeneratedFile

/-- What can stand under a directive: a name that fits into the header's first field, and a body
with something to see and without the marker. -/
structure Encodable (f : GeneratedFile) : Prop where
  filename_ne : f.filename ≠ []
  strip_filename : Text.strip f.filename = f.filename
  colon_notMem : ':' ∉ f.filename
  newline_notMem : '\n' ∉ f.filename
  mode_ne : f.mode ≠ .skip
  permissions_length : f.permissions.length = 3 ∨ f.permissions.length = 4
  permissions_octal : ∀ c ∈ f.permissions, '0' ≤ c ∧ c ≤ '7'
  content_visible : ∃ c ∈ f.content, ¬ Text.isBlankChar c
  content_unmarked : ¬ Directive.marker <:+: f.content

/-- What the file's directive says behind the marker. -/
def header (f : GeneratedFile) : Text :=
  f.filename ++ ':' :: (f.mode.token ++ ':' :: f.permissions)

/-- The file under its directive. -/
def encode (f : GeneratedFile) : Text :=
  Directive.marker ++ f.header ++ '\n' :: f.content

/-- The segment that the file's directive opens. -/
def segment (f : GeneratedFile) : Segment where
  filename := f.filename
  mode := f.mode
  permissions := f.permissions

end GeneratedFile

/-- The files of a list under their directives, one behind another. -/
def encodeFiles (files : List GeneratedFile) : Text :=
  Text.unlines (files.map GeneratedFile.encode)

namespace WriteMode

theorem strip_token (m : WriteMode) : Text.strip m.token = m.token := by
  cases m <;> decide

theorem notMem_token (m : WriteMode) : ':' ∉ m.token ∧ '\n' ∉ m.token := by
  cases m <;> decide

theorem parseMode_token (m : WriteMode) : Directive.parseMode m.token = m := by
  cases m <;> decide

end WriteMode

namespace GeneratedFile

variable {f : GeneratedFile}

theorem Encodable.isOctalDigit (h : f.Encodable) : ∀ c ∈ f.permissions, Text.IsOctalDigit c :=
  h.permissions_octal

theorem Encodable.fields_header (h : f.Encodable) :
    Directive.fields f.header = [f.filename, f.mode.token, f.permissions] := by
  have hp : ':' ∉ f.permissions := fun hm =>
    (h.isOctalDigit _ hm).ne_of_toNat_lt (by decide) rfl
  have hs : Text.strip f.permissions = f.permissions :=
    Text.strip_of_forall fun c hc => (h.isOctalDigit c hc).isBlankChar_eq
  rw [Directive.fields, header, List.splitOn_append_cons_self_of_not_mem h.colon_notMem,
    List.splitOn_append_cons_self_of_not_mem f.mode.notMem_token.1, List.splitOn_eq_singleton hp]
  simp [h.strip_filename, f.mode.strip_token, hs]

theorem Encodable.ofHeader_header (h : f.Encodable) : Segment.ofHeader f.header = f.segment := by
  have hne : f.permissions ≠ [] := by
    intro he
    have := h.permissions_length
    simp [he] at this
  have hperm : Directive.permissionsField f.header = f.permissions := by
    simp [Directive.permissionsField, h.fields_header, hne]
  have hvalid : Directive.isPermissions f.permissions = true := by
    simpa [Directive.isPermissions] using ⟨h.permissions_length, h.permissions_octal⟩
  simp [Segment.ofHeader, hperm, hvalid, h.fields_header, f.mode.parseMode_token, segment]

/-- The directive closes the open segment and opens the file's. -/
theorem Encodable.feed_directive (h : f.Encodable) (s : Splitter) :
    s.feed keepBody (Directive.marker ++ f.header) =
      { s.flush keepBody with segment := f.segment } := by
  have hheader : Directive.header? (Directive.marker ++ f.header) = some f.header := by
    simp [Directive.header?, Text.cut?_mark_append (show Directive.marker ≠ [] by decide)]
  have hvisible : Text.isBlank f.header = false := by
    by_contra hb
    have hall : ∀ c ∈ f.filename, Text.isBlankChar c = true := by
      have := List.all_eq_true.mp (Bool.of_not_eq_false hb)
      exact fun c hc => this c (List.mem_append_left _ hc)
    have hempty : Text.strip f.filename = [] := Text.strip_of_isBlank (List.all_eq_true.mpr hall)
    exact h.filename_ne (h.strip_filename ▸ hempty)
  simp [Splitter.feed, hheader, hvisible, h.ofHeader_header]

theorem feed_unmarked (s : Splitter) {line : Text} (h : ¬ Directive.marker <:+: line) :
    s.feed keepBody line =
      { s with segment := { s.segment with lines := s.segment.lines ++ [line] } } := by
  simp [Splitter.feed, Directive.header?_eq_none_iff.mpr h]

theorem foldl_feed_unmarked (s : Splitter) {lines : List Text}
    (h : ∀ line ∈ lines, ¬ Directive.marker <:+: line) :
    lines.foldl (Splitter.feed keepBody) s =
      { s with segment := { s.segment with lines := s.segment.lines ++ lines } } := by
  induction lines generalizing s with
  | nil => simp
  | cons line lines ih =>
    rw [List.foldl_cons, feed_unmarked s (h line (by simp)), ih _ fun l hl => h l (by simp [hl])]
    simp

theorem Encodable.lines_encode (h : f.Encodable) :
    Text.lines f.encode = (Directive.marker ++ f.header) :: Text.lines f.content := by
  have hperm : '\n' ∉ f.permissions := fun hm =>
    (h.isOctalDigit _ hm).ne_of_toNat_lt (by decide) rfl
  have hmarker : '\n' ∉ Directive.marker := by decide
  have hdirective : '\n' ∉ Directive.marker ++ f.header := by
    simp [header, hmarker, h.newline_notMem, f.mode.notMem_token.2, hperm]
  rw [encode, Text.lines_append_newline, Text.lines_of_not_mem hdirective]
  rfl

/-- The file's own lines leave its segment open behind what was closed before. -/
theorem Encodable.foldl_feed (h : f.Encodable) (s : Splitter) :
    (Text.lines f.encode).foldl (Splitter.feed keepBody) s =
      { s.flush keepBody with segment := { f.segment with lines := Text.lines f.content } } := by
  have hlines : ∀ line ∈ Text.lines f.content, ¬ Directive.marker <:+: line :=
    fun line hl hm => h.content_unmarked (hm.trans (Text.infix_of_mem_lines hl))
  rw [h.lines_encode, List.foldl_cons, h.feed_directive, foldl_feed_unmarked _ hlines]
  rfl

theorem Encodable.close_segment (h : f.Encodable) {s : Segment}
    (hs : s = { f.segment with lines := Text.lines f.content }) :
    s.isKept = true ∧ s.close keepBody = f := by
  obtain ⟨c, hc, hb⟩ := h.content_visible
  obtain ⟨line, hline, hcl⟩ := Text.exists_line_of_not_blank hc hb
  subst hs
  refine ⟨Segment.isKept_iff.mpr ⟨h.mode_ne, line, hline, c, hcl, hb⟩, ?_⟩
  simp [Segment.close, keepBody, segment, Text.unlines_lines]

end GeneratedFile

/-- Closing after the lines of encoded files gives those files behind what closing gave before. -/
theorem flush_foldl_feed {files : List GeneratedFile} (h : ∀ f ∈ files, f.Encodable) (s : Splitter) :
    (((files.flatMap fun f => Text.lines f.encode).foldl (Splitter.feed keepBody) s).flush
      keepBody).files = (s.flush keepBody).files ++ files := by
  induction files generalizing s with
  | nil => simp
  | cons f files ih =>
    have hf := h f (by simp)
    obtain ⟨hkept, hclose⟩ := hf.close_segment rfl
    rw [List.flatMap_cons, List.foldl_append, hf.foldl_feed, ih fun g hg => h g (by simp [hg])]
    simp [Splitter.flush_files, hkept, hclose]

/-- Splitting finds the files that were written under their directives, whatever the default name. -/
theorem splitFiles_encodeFiles {files : List GeneratedFile} (h : ∀ f ∈ files, f.Encodable)
    (d : Text) : splitFiles d (encodeFiles files) = files := by
  cases files with
  | nil => rfl
  | cons f files =>
    have hlines : Text.lines (encodeFiles (f :: files)) =
        (f :: files).flatMap fun f => Text.lines f.encode := by
      rw [encodeFiles, Text.lines_unlines (by simp), List.flatMap_map]
    have hstart : ((Splitter.start d).flush keepBody).files = [] := rfl
    rw [splitFiles, hlines, Splitter.finish, flush_foldl_feed h, hstart, List.nil_append]

/-- Two versions of one file, the first with empty lines at its end, the second beginning with one. -/
theorem splitFiles_encodeFiles_versions :
    encodeFiles [⟨"a.txt", "x\n\n", .merge, "644"⟩, ⟨"a.txt", "\ny", .createOnly, "0755"⟩] =
        "#FILENAME:a.txt:merge:644\nx\n\n\n#FILENAME:a.txt:create-only:0755\n\ny".toList ∧
      splitFiles "index"
          (encodeFiles [⟨"a.txt", "x\n\n", .merge, "644"⟩, ⟨"a.txt", "\ny", .createOnly, "0755"⟩]) =
        [⟨"a.txt", "x\n\n", .merge, "644"⟩, ⟨"a.txt", "\ny", .createOnly, "0755"⟩] := by
  refine ⟨by decide, splitFiles_encodeFiles (fun f hf => ?_) _⟩
  simp only [List.mem_cons, List.not_mem_nil, or_false] at hf
  rcases hf with rfl | rfl
  · exact ⟨by decide, by decide, by decide, by decide, by decide, by decide, by simp,
      ⟨'x', by decide, by decide⟩, by decide⟩
  · exact ⟨by decide, by decide, by decide, by decide, by decide, by decide, by simp,
      ⟨'y', by decide, by decide⟩, by decide⟩

end Stencil

import Stencil.Proofs.Helper.Switches
import Stencil.Proofs.Json.RoundTrip

namespace Stencil.Helper

section Runs

variable (e : Engine) (data : Value) {v : Value} {s : Session} {t : Text}

theorem run_json (h : json (s.store.resolve v) = .ok t) :
    (callNamed e data "json" ⟨[v], [], none⟩).run s = (.ok (.markup t), s) := by
  have hcall : callNamed e data "json" ⟨[v], [], none⟩ =
      (do return .markup (← Act.ofExcept (json (← Act.resolve v)))) := rfl
  rw [hcall, Act.run_bind_ok _ (Act.run_resolve v s), h]
  rfl

theorem run_jsonString (h : json (s.store.resolve v) = .ok t) :
    (callNamed e data "json_string" ⟨[v], [], none⟩).run s = (.ok (.markup (Json.literal t)), s) := by
  have hcall : callNamed e data "json_string" ⟨[v], [], none⟩ =
      (do return .markup (← Act.ofExcept (jsonString (← Act.resolve v)))) := rfl
  rw [hcall, Act.run_bind_ok _ (Act.run_resolve v s), jsonString, h]
  rfl

theorem run_jsonPretty (h : jsonPretty (s.store.resolve v) = .ok t) :
    (callNamed e data "toJSON" ⟨[v], [], none⟩).run s = (.ok (.text t), s) := by
  have hcall : callNamed e data "toJSON" ⟨[v], [], none⟩ =
      (do return .text (← Act.ofExcept (jsonPretty (← Act.resolve v)))) := rfl
  rw [hcall, Act.run_bind_ok _ (Act.run_resolve v s), h]
  rfl

end Runs

variable {v : Value}

theorem plain_of_isDocument (h : v.IsDocument) : plain v = v := by
  cases h <;> rfl

/-- The compact and the indented form of a document are read back as the document; the quoted form is
a string literal of the compact one. -/
theorem json_read_back (e : Engine) (data : Value) {s : Session}
    (h : (s.store.resolve v).IsDocument) :
    ∃ compact quoted indented,
      (callNamed e data "json" ⟨[v], [], none⟩).run s = (.ok (.markup compact), s) ∧
      (callNamed e data "json_string" ⟨[v], [], none⟩).run s = (.ok (.markup quoted), s) ∧
      (callNamed e data "toJSON" ⟨[v], [], none⟩).run s = (.ok (.text indented), s) ∧
      Json.parse? compact = some (s.store.resolve v) ∧
      Json.parse? indented = some (s.store.resolve v) ∧
      quoted = Json.literal compact ∧ Json.parse? quoted = some (.text compact) := by
  obtain ⟨compact, hcompact, hreads⟩ := Json.exists_write h .compact 0
  obtain ⟨indented, hindented, hpretty⟩ := Json.exists_write h (.indented 4) 0
  have hjson : json (s.store.resolve v) = .ok compact := by
    rw [json, plain_of_isDocument h, Json.compact, hcompact]
  have hjsonPretty : jsonPretty (s.store.resolve v) = .ok indented := by
    rw [jsonPretty, plain_of_isDocument h, Json.pretty, hindented]
  exact ⟨compact, Json.literal compact, indented, run_json e data hjson, run_jsonString e data hjson,
    run_jsonPretty e data hjsonPretty, hreads.parse?_eq, hpretty.parse?_eq, rfl,
    (Json.reads_literal compact).parse?_eq⟩

/-- A mapping with a quote, a line break and a letter beyond ASCII, and with a list that it refers
to. -/
def noteSession : Session where
  store := ⟨#[.list [.null, .int (-120), .bool true],
    .dict [(.text "é\"", .ref 0), (.text [], .text "a\\\n\x01")]]⟩

theorem json_read_back_note :
    (noteSession.store.resolve (.ref 1)).IsDocument ∧
    ∃ compact quoted indented,
      (callNamed { context := .null } .null "json" ⟨[.ref 1], [], none⟩).run noteSession =
        (.ok (.markup compact), noteSession) ∧
      (callNamed { context := .null } .null "json_string" ⟨[.ref 1], [], none⟩).run noteSession =
        (.ok (.markup quoted), noteSession) ∧
      (callNamed { context := .null } .null "toJSON" ⟨[.ref 1], [], none⟩).run noteSession =
        (.ok (.text indented), noteSession) ∧
      Json.parse? compact = some (noteSession.store.resolve (.ref 1)) ∧
      Json.parse? indented = some (noteSession.store.resolve (.ref 1)) ∧
      quoted = Json.literal compact ∧ Json.parse? quoted = some (.text compact) := by
  have hitems : (Value.list [.null, .int (-120), .bool true]).IsDocument :=
    .list (by simp [Value.IsDocument.null, Value.IsDocument.int, Value.IsDocument.bool])
  have hnote : noteSession.store.resolve (.ref 1) =
      .dict [(.text "é\"", .list [.null, .int (-120), .bool true]),
        (.text [], .text "a\\\n\x01")] := rfl
  have h : (noteSession.store.resolve (.ref 1)).IsDocument := by
    rw [hnote]
    exact .dict ⟨by simp, by decide⟩ (by simp [hitems, Value.IsDocument.text])
  exact ⟨h, json_read_back { context := .null } .null h⟩

end Stencil.Helper

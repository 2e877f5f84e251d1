import Stencil.Proofs.Helper.Forms
import Stencil.Proofs.Helper.Switches
import Stencil.Proofs.Kind.Mention

namespace Stencil

theorem Value.iteratePresent_list (items : List Value) :
    (list items).iteratePresent = .ok items := by
  cases items <;> rfl

theorem Value.asList_list (items : List Value) : (list items).asList = .ok items := by
  cases items <;> rfl

namespace Helper

open Kind

variable {e : Engine} {s : Session} {v : Value} {consumers providers : List Value}

/-- The document has these resources in a collection, or no such collection and there are none. -/
def HasCollection (e : Engine) (s : Session) (name : Text) (items : List Value) : Prop :=
  let field := s.store.look ((s.store.look ((s.store.look e.context).get "spec")).get name)
  field = .null ∧ items = [] ∨ field = .list items

theorem run_specField (e : Engine) (name : Text) (s : Session) :
    (specField e name).run s =
      (.ok (s.store.look ((s.store.look ((s.store.look e.context).get "spec")).get name)), s) :=
  rfl

theorem HasCollection.run_resources {name : Text} {items : List Value}
    (h : HasCollection e s name items) : (resources e name).run s = (.ok items, s) := by
  rw [resources, Act.run_bind_ok _ (run_specField e name s), Act.run_ofExcept]
  rcases h with ⟨hnull, rfl⟩ | hlist
  · rw [hnull]
    rfl
  · rw [hlist, Value.iteratePresent_list]

theorem run_requestTexts {ts : List Text} (h : s.store.look v = .list (ts.map .text)) :
    (requestTexts v).run s = (.ok ts, s) := by
  have hlist : (Act.ofExcept (Value.list (ts.map .text)).asList).run s = (.ok (ts.map .text), s) := by
    rw [Value.asList_list, Act.run_ofExcept]
  have hlook := Act.run_look v s
  rw [h] at hlook
  rw [requestTexts, Act.run_bind_ok _ hlook, Act.run_bind_ok _ hlist,
    Act.run_mapM_of_forall fun v => Act.run_textOf v s, List.map_map]
  exact congrArg (fun ts => (Except.ok ts, s)) (List.map_id ts)

theorem run_ifUsingAny (hconsumers : HasCollection e s "consumers" consumers)
    (hproviders : HasCollection e s "providers" providers) (requests : List Text)
    (b : Option Block) :
    (ifUsingAny e requests b).run s =
      (blockOrFlag (usesAny ((consumers ++ providers).map s.store.look) requests) b).run s := by
  have hget : (get : Act Session).run s = (.ok s, s) := rfl
  rw [ifUsingAny, Act.run_bind_ok _ hget, Act.run_bind_ok _ hconsumers.run_resources,
    Act.run_bind_ok _ hproviders.run_resources]

/-- Kinds are asked for, where the document has these consumers and providers. -/
structure Asks (e : Engine) (s : Session) (v : Value) (mentions : List Mention)
    (consumers providers : List Value) : Prop where
  requests : s.store.look v = .list (mentions.map fun m => .text m.text)
  wellFormed : ∀ m ∈ mentions, m.IsWellFormed
  hasConsumers : HasCollection e s "consumers" consumers
  hasProviders : HasCollection e s "providers" providers
  ascii : ∀ resource ∈ consumers ++ providers, HasAsciiKind (s.store.look resource)

/-- The handles and names of all resources. -/
def usedPaths (s : Session) (consumers providers : List Value) : List (Text × Text) :=
  pathsOf ((consumers ++ providers).map s.store.look)

variable {mentions : List Mention}

namespace Asks

theorem run_usesAnyOf (h : Asks e s v mentions consumers providers) (data : Value)
    (b : Option Block) :
    (callNamed e data "usesAnyOf" ⟨[v], [], b⟩).run s =
      (blockOrFlag (usesAny ((consumers ++ providers).map s.store.look)
        (mentions.map Mention.text)) b).run s := by
  have hrequests : s.store.look v = .list ((mentions.map Mention.text).map .text) := by
    rw [h.requests, List.map_map]
    rfl
  have hcall : callNamed e data "usesAnyOf" ⟨[v], [], b⟩ =
      (do ifUsingAny e (← requestTexts v) b) := by
    cases b <;> rfl
  rw [hcall, Act.run_bind_ok _ (run_requestTexts hrequests),
    run_ifUsingAny h.hasConsumers h.hasProviders]

theorem usesAny_iff (h : Asks e s v mentions consumers providers) :
    usesAny ((consumers ++ providers).map s.store.look) (mentions.map Mention.text) = true ↔
      ∃ p ∈ mentions.map Mention.path, p ∈ usedPaths s consumers providers :=
  Helper.usesAny_iff h.wellFormed fun resource hmem => by
    obtain ⟨r, hr, rfl⟩ := List.mem_map.mp hmem
    exact h.ascii r hr

end Asks

/-- Some kind is used if a consumer or provider has its handle and its name, in whatever letters.
Kinds and resources with the same handles and names get the same answer: versions, the order and the
collections do not count. -/
theorem usesAnyOf_iff_path (h : Asks e s v mentions consumers providers) (data : Value) :
    ∃ answer : Bool,
      (∀ b, (callNamed e data "usesAnyOf" ⟨[v], [], b⟩).run s = (blockOrFlag answer b).run s) ∧
      (answer = true ↔
        ∃ p ∈ mentions.map Mention.path, p ∈ usedPaths s consumers providers) ∧
      ∀ {e' s' v' mentions' consumers' providers'} (data' : Value),
        Asks e' s' v' mentions' consumers' providers' →
        (∀ p, p ∈ mentions'.map Mention.path ↔ p ∈ mentions.map Mention.path) →
        (∀ p, p ∈ usedPaths s' consumers' providers' ↔ p ∈ usedPaths s consumers providers) →
        ∀ b, (callNamed e' data' "usesAnyOf" ⟨[v'], [], b⟩).run s' =
          (blockOrFlag answer b).run s' := by
  refine ⟨_, h.run_usesAnyOf data, h.usesAny_iff, ?_⟩
  intro e' s' v' mentions' consumers' providers' data' h' hmentions hused b
  have hsame : usesAny ((consumers' ++ providers').map s'.store.look)
      (mentions'.map Mention.text) =
      usesAny ((consumers ++ providers).map s.store.look) (mentions.map Mention.text) := by
    rw [Bool.eq_iff_iff, h'.usesAny_iff, h.usesAny_iff]
    exact exists_congr fun p => and_congr (hmentions p) (hused p)
  rw [h'.run_usesAnyOf, hsame]

/-- A document with one resource, and a list of the kinds that are asked for. -/
def resourceSession (collection kind : Text) (mentions : List Mention) : Session where
  store := ⟨#[.dict [(.text "kind", .text kind)], .list [.ref 0], .dict [(.text collection, .ref 1)],
    .dict [(.text "spec", .ref 2)], .list (mentions.map fun m => .text m.text)]⟩

/-- A queue and a database, both with versions. -/
def versionedMentions : List Mention :=
  [⟨"acme", "queue", some "7", false⟩, ⟨"KAPETA", "mysql", some " 2:*", true⟩]

/-- The same in the other order, with other letters and without versions. -/
def plainMentions : List Mention :=
  [⟨"kapeta", "MySQL", none, false⟩, ⟨"Acme", "queue", none, true⟩]

/-- A consumer in some version. -/
def consumerSession : Session :=
  resourceSession "consumers" "Kapeta/MySQL:1.0" versionedMentions

/-- The same resource as a provider, without the version. -/
def providerSession : Session :=
  resourceSession "providers" "kapeta://kapeta/mysql" plainMentions

theorem usesAnyOf_iff_path_database :
    (∃ p ∈ versionedMentions.map Mention.path, p ∈ usedPaths consumerSession [.ref 0] []) ∧
    (callNamed { context := .ref 3 } .null "usesAnyOf" ⟨[.ref 4], [], none⟩).run consumerSession =
      (.ok (.bool true), consumerSession) ∧
    (callNamed { context := .ref 3 } .null "usesAnyOf" ⟨[.ref 4], [], none⟩).run providerSession =
      (.ok (.bool true), providerSession) := by
  have hconsumer : Asks { context := .ref 3 } consumerSession (.ref 4) versionedMentions
      [.ref 0] [] :=
    ⟨rfl, by decide, .inr rfl, .inl ⟨rfl, rfl⟩, by decide +kernel⟩
  have hprovider : Asks { context := .ref 3 } providerSession (.ref 4) plainMentions
      [] [.ref 0] :=
    ⟨rfl, by decide, .inl ⟨rfl, rfl⟩, .inr rfl, by decide +kernel⟩
  have hused : ∃ p ∈ versionedMentions.map Mention.path,
      p ∈ usedPaths consumerSession [.ref 0] [] := by
    decide +kernel
  have hmentions : plainMentions.map Mention.path =
      (versionedMentions.map Mention.path).reverse := by
    decide +kernel
  have hpaths : usedPaths providerSession [] [.ref 0] = usedPaths consumerSession [.ref 0] [] := by
    decide +kernel
  obtain ⟨answer, hrun, hanswer, hsame⟩ := usesAnyOf_iff_path hconsumer .null
  obtain rfl : answer = true := hanswer.mpr hused
  refine ⟨hused, hrun none, hsame .null hprovider (fun p => ?_) (fun p => ?_) none⟩
  · rw [hmentions, List.mem_reverse]
  · rw [hpaths]

end Helper

end Stencil

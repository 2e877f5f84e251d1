import Mathlib.Data.List.Forall2
import Stencil.Helper.Sources
import Stencil.Proofs.Engine.Session
import Stencil.Proofs.Value.Entries

namespace Stencil

namespace Entity

/-- The loose methods among entities, in order. -/
def methodsOf (store : Store) (entities : List Value) : List Value :=
  entities.filter fun entity => isMethod (store.look entity)

/-- The entities besides loose methods, in order. -/
def othersOf (store : Store) (entities : List Value) : List Value :=
  entities.filter fun entity => !isMethod (store.look entity)

/-- What stands for an entity that is no loose method: the entity itself, or the entries of a controller,
where the base name is put for a missing or false namespace. -/
inductive Retained (base : Value) (store : Store) : Value → Value → Prop
  | same {entity : Value} (hother : isController (store.look entity) = false) :
    Retained base store entity entity
  | named {entity : Value} {es : Entries} (hentries : store.look entity = .dict es)
    (hcontroller : isController (.dict es) = true)
    (hnamespace : (store.look ((Value.dict es).get "namespace")).truthy = true) :
    Retained base store entity (.dict es)
  | unnamed {entity : Value} {es fs : Entries} (hentries : store.look entity = .dict es)
    (hcontroller : isController (.dict es) = true)
    (hnamespace : (store.look ((Value.dict es).get "namespace")).truthy = false)
    (hbase : Entries.get? (.text "namespace") fs = some base)
    (hfields : ∀ k, k ≠ .text "namespace" → Entries.get? k fs = Entries.get? k es)
    (hkeys : fs.map Prod.fst =
      if Key.text "namespace" ∈ es.map Prod.fst then es.map Prod.fst
      else es.map Prod.fst ++ [.text "namespace"]) :
    Retained base store entity (.dict fs)

/-- The entries of a controller with a name that holds methods. -/
structure Collects (base : Value) (methods : List Value) (fs : Entries) : Prop where
  keys : fs.map Prod.fst = [.text "type", .text "name", .text "path", .text "methods"]
  type : Entries.get? (.text "type") fs = some (.text "controller")
  name : Entries.get? (.text "name") fs = some base
  path : Entries.get? (.text "path") fs = some (.text "/")
  methods : Entries.get? (.text "methods") fs = some (.list methods)

section

variable {base entity : Value} {store : Store}

theorem exists_dict_of_isController (h : isController entity = true) : ∃ es, entity = .dict es := by
  cases entity with
  | dict es => exact ⟨es, rfl⟩
  | _ => cases h

theorem namespaceOr_of_truthy {es : Entries}
    (h : (store.look ((Value.dict es).get "namespace")).truthy = true) :
    Entries.get? (.text "namespace") es = some (namespaceOr base (.dict es) store.look) := by
  rw [namespaceOr, if_pos h]
  rw [Value.get] at h ⊢
  cases hget : Entries.get? (.text "namespace") es with
  | none =>
    rw [hget] at h
    cases h
  | some v => rfl

theorem retained_withNamespace (h : isController (store.look entity) = true) :
    Retained base store entity (withNamespace base (store.look entity) store.look) := by
  obtain ⟨es, hes⟩ := exists_dict_of_isController h
  rw [hes] at h ⊢
  rw [withNamespace]
  cases hnamespace : (store.look ((Value.dict es).get "namespace")).truthy with
  | true =>
    rw [Entries.set_of_get? (namespaceOr_of_truthy hnamespace)]
    exact .named hes h hnamespace
  | false =>
    have hbase : namespaceOr base (.dict es) store.look = base := by
      rw [namespaceOr, hnamespace]
      rfl
    rw [hbase]
    refine .unnamed hes h hnamespace ?_ (fun k hk => ?_) (Entries.keys_set_text _ _ _)
    · rw [Entries.get?_set_text, if_pos rfl]
    · rw [Entries.get?_set_text, if_neg hk]

theorem exists_collects (base : Value) (methods : List Value) :
    ∃ fs, hoisting base methods = .dict fs ∧ Collects base methods fs :=
  ⟨_, rfl, rfl, rfl, rfl, rfl, rfl⟩

theorem othersOf_append_methodsOf_perm (store : Store) (entities : List Value) :
    (othersOf store entities ++ methodsOf store entities).Perm entities :=
  List.perm_append_comm.trans (List.filter_append_perm _ _)

theorem reshape_eq (entities : List Value) (base : Value) (store : Store) :
    reshape entities base store.look =
      ((othersOf store entities).map fun entity =>
        if isController (store.look entity) then withNamespace base (store.look entity) store.look
        else entity) ++
      if (methodsOf store entities).isEmpty then [] else [hoisting base (methodsOf store entities)] :=
  rfl

theorem forall₂_retained (base : Value) (store : Store) (entities : List Value) :
    List.Forall₂ (Retained base store) entities (entities.map fun entity =>
      if isController (store.look entity) then withNamespace base (store.look entity) store.look
      else entity) := by
  rw [List.forall₂_map_right_iff, List.forall₂_same]
  intro entity _
  split
  next h => exact retained_withNamespace h
  next h => exact .same (Bool.eq_false_iff.mpr h)

end

end Entity

namespace Helper

/-- A source block with code is read into entities, which go by a base name. The parser leaves a second
session behind. -/
structure ReadsSource (e : Engine) (options : Entries) (source namespaceName validTypes data : Value)
    (s : Session) (base : Value) (entities : List Value) (s' : Session) : Prop where
  code : (s.store.look ((s.store.look source).get "value")).truthy = true
  base : (baseName namespaceName data).run s = (.ok base, s)
  parse : ∃ types, (s.store.look validTypes).asList = .ok types ∧
    (Source.parse e.parser ((s.store.look source).get "value") options (.list types)).run s =
      (.ok entities, s')

theorem ReadsSource.run_eachEntity {e : Engine} {options : Entries}
    {source namespaceName validTypes data base : Value} {entities : List Value} {s s' : Session}
    (h : ReadsSource e options source namespaceName validTypes data s base entities s') :
    (eachEntity e options source namespaceName validTypes data none).run s =
      (.ok (.list (Entity.reshape entities base s'.store.look)), s') := by
  obtain ⟨types, htypes, hparse⟩ := h.parse
  have hcode : (Act.truthy ((s.store.look source).get "value")).run s = (.ok true, s) := by
    rw [← h.code]
    rfl
  have hlist : (Act.ofExcept (s.store.look validTypes).asList).run s = (.ok types, s) := by
    rw [htypes]
    rfl
  rw [eachEntity, Act.run_bind_ok _ (Act.run_look source s), Act.run_bind_ok _ hcode]
  show (baseName namespaceName data >>= _).run s = _
  rw [Act.run_bind_ok _ h.base, Act.run_bind_ok _ (Act.run_look validTypes s),
    Act.run_bind_ok _ hlist, Act.run_bind_ok _ hparse]
  rfl

end Helper

namespace Entity

/-- Grouping keeps the entities besides loose methods, in order, and puts a controller with the base name
behind them that holds the loose methods, if there are any. So every entity is there once. A helper for
source blocks gives the entities of the parser grouped in this way, and they are in the store what they
were when the parser had run. -/
theorem reshape_groups_methods (entities : List Value) (base : Value) :
    (∀ store : Store, ∃ retained added,
      reshape entities base store.look = retained ++ added ∧
      List.Forall₂ (Retained base store) (othersOf store entities) retained ∧
      (methodsOf store entities = [] ∧ added = [] ∨ methodsOf store entities ≠ [] ∧
        ∃ fs, added = [.dict fs] ∧ Collects base (methodsOf store entities) fs) ∧
      (othersOf store entities ++ methodsOf store entities).Perm entities) ∧
    ∀ (e : Engine) (options : Entries) (source namespaceName validTypes data : Value)
      (s s' : Session),
      Helper.ReadsSource e options source namespaceName validTypes data s base entities s' →
      (Helper.eachEntity e options source namespaceName validTypes data none).run s =
        (.ok (.list (reshape entities base s'.store.look)), s') := by
  constructor
  · intro store
    refine ⟨_, _, reshape_eq entities base store, forall₂_retained base store _, ?_,
      othersOf_append_methodsOf_perm store entities⟩
    by_cases hmethods : methodsOf store entities = []
    · exact Or.inl ⟨hmethods, by rw [hmethods]; rfl⟩
    · obtain ⟨fs, hfs, hcollects⟩ := exists_collects base (methodsOf store entities)
      refine Or.inr ⟨hmethods, fs, ?_, hcollects⟩
      rw [if_neg (mt List.isEmpty_iff.mp hmethods), hfs]
  · intro e options source namespaceName validTypes data s s' h
    exact h.run_eachEntity

/-- A controller with an empty list as its namespace, and a loose method. -/
def ordersSession : Session where
  store := ⟨#[.dict [(.text "type", .text "controller"), (.text "namespace", .ref 1)], .list [],
    .dict [(.text "type", .text "method")]]⟩

/-- A parser that finds the method, the controller and a text. -/
def ordersEngine : Engine where
  context := .null
  parser := some fun _ _ => .parsed (.list [.ref 2, .ref 0, .text "note"]) .null

def ordersSource : Value :=
  .dict [(.text "value", .text "orders")]

/-- The session when the parser has run. -/
def ordersParsed : Session :=
  ((Source.parse ordersEngine.parser (.text "orders") Source.typeOptions (.list [])).run
    ordersSession).2

theorem reshape_groups_methods_orders :
    Helper.ReadsSource ordersEngine Source.typeOptions ordersSource (.text "shop") .null .null
        ordersSession (.text "shop") [.ref 2, .ref 0, .text "note"] ordersParsed ∧
      (Helper.eachEntity ordersEngine Source.typeOptions ordersSource (.text "shop") .null .null
        none).run ordersSession =
        (.ok (.list [.dict [(.text "type", .text "controller"), (.text "namespace", .text "shop")],
          .text "note",
          .dict [(.text "type", .text "controller"), (.text "name", .text "shop"),
            (.text "path", .text "/"), (.text "methods", .list [.ref 2])]]), ordersParsed) := by
  have hreads : Helper.ReadsSource ordersEngine Source.typeOptions ordersSource (.text "shop") .null
      .null ordersSession (.text "shop") [.ref 2, .ref 0, .text "note"] ordersParsed :=
    ⟨rfl, rfl, [], rfl, rfl⟩
  obtain ⟨-, hrun⟩ := reshape_groups_methods [.ref 2, .ref 0, .text "note"] (.text "shop")
  exact ⟨hreads, hrun _ _ _ _ _ _ _ _ hreads⟩

end Entity

end Stencil

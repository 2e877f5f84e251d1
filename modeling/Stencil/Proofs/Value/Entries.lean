import Mathlib.Data.List.Nodup
import Stencil.Value.Basic

namespace Stencil

theorem Key.text_same (t : Text) (k : Key) : (Key.text t).same k = decide (k = .text t) := by
  cases k <;> simp [Key.same, Key.number?, eq_comm]

theorem Key.same_text (k : Key) (t : Text) : k.same (.text t) = decide (k = .text t) := by
  cases k <;> simp [Key.same, Key.number?]

theorem Key.text_or_not_same_text (k : Key) (t : Text) :
    (∃ u, k = .text u) ∨ k.same (.text t) = false := by
  cases k <;> simp [Key.same, Key.number?]

namespace Entries

variable {es fs : Entries} {k : Key} {v w : Value} {t : Text}

theorem get?_text_cons (t : Text) (k : Key) (v : Value) (es : Entries) :
    get? (.text t) ((k, v) :: es) = if k = .text t then some v else get? (.text t) es := by
  rw [get?, Key.text_same]
  simp only [decide_eq_true_eq]

theorem get?_text_of_singleton (h : get? (.text t) [(k, v)] = some w) (es : Entries) :
    get? (.text t) ((k, v) :: es) = some w := by
  rw [get?_text_cons] at h ⊢
  split at h
  next hk => rwa [if_pos hk]
  next => cases h

theorem get?_text_eq_none_iff : get? (.text t) es = none ↔ Key.text t ∉ es.map Prod.fst := by
  induction es with
  | nil => simp [get?]
  | cons e es ih =>
    obtain ⟨k, v⟩ := e
    rw [get?_text_cons, List.map_cons, List.mem_cons, not_or, ← ih]
    split
    next hk => simp [hk]
    next hk => simp [Ne.symm hk]

/-- An entry with a key of its own hides none of the others. -/
theorem get?_text_of_tail (hk : k ∉ es.map Prod.fst) (v : Value)
    (h : get? (.text t) es = some w) : get? (.text t) ((k, v) :: es) = some w := by
  have hne : k ≠ .text t := by
    rintro rfl
    rw [get?_text_eq_none_iff.mpr hk] at h
    cases h
  rwa [get?_text_cons, if_neg hne]

theorem get?_text_set (t : Text) (k : Key) (v : Value) (es : Entries) :
    get? (.text t) (set k v es) = if k = .text t then some v else get? (.text t) es := by
  induction es with
  | nil => exact get?_text_cons t k v []
  | cons e es ih =>
    obtain ⟨l, w⟩ := e
    rw [set]
    split
    next hsame =>
      rw [get?_text_cons, get?_text_cons]
      by_cases hl : l = .text t
      · have hk : k = .text t := by simpa [hl, Key.same_text] using hsame
        rw [if_pos hl, if_pos hk]
      · have hk : k ≠ .text t := by
          rintro rfl
          exact hl (by simpa [Key.text_same] using hsame)
        rw [if_neg hl, if_neg hk, if_neg hl]
    next hsame =>
      rw [get?_text_cons, get?_text_cons, ih]
      by_cases hl : l = .text t
      · have hk : k ≠ .text t := by
          rintro rfl
          exact hsame (by simp [Key.text_same, hl])
        rw [if_pos hl, if_pos hl, if_neg hk]
      · rw [if_neg hl, if_neg hl]

theorem get?_set_text (k : Key) (t : Text) (v : Value) (es : Entries) :
    get? k (set (.text t) v es) = if k = .text t then some v else get? k es := by
  induction es with
  | nil => simp [set, get?, Key.same_text]
  | cons e es ih =>
    obtain ⟨l, w⟩ := e
    rw [set, Key.text_same]
    by_cases hl : l = .text t
    · rw [if_pos (by simpa using hl), get?, get?, hl, Key.same_text]
      by_cases hk : k = .text t <;> simp [hk]
    · rw [if_neg (by simpa using hl), get?, get?, ih]
      by_cases hk : k = .text t
      · rw [if_pos hk, if_pos hk, hk, Key.text_same, if_neg (by simpa using hl)]
      · rw [if_neg hk, if_neg hk]

/-- A key that is given the value it has already changes nothing. -/
theorem set_of_get? (h : get? k es = some v) : set k v es = es := by
  induction es with
  | nil => cases h
  | cons e es ih =>
    obtain ⟨l, w⟩ := e
    rw [get?] at h
    rw [set]
    split at h
    next hsame => rw [if_pos hsame, Option.some.inj h]
    next hsame => rw [if_neg hsame, ih h]

/-- A mapping that is taken over goes before what is there. -/
theorem get?_text_update_of_count (hfs : (fs.map Prod.fst).count (.text t) ≤ 1) (es : Entries) :
    get? (.text t) (update es fs) = (get? (.text t) fs).or (get? (.text t) es) := by
  induction fs generalizing es with
  | nil => rfl
  | cons f fs ih =>
    obtain ⟨k, v⟩ := f
    have hstep : update es ((k, v) :: fs) = update (set k v es) fs := rfl
    rw [List.map_cons, List.count_cons] at hfs
    rw [hstep, ih (by omega), get?_text_set, get?_text_cons]
    by_cases hk : k = .text t
    · have hnew : Key.text t ∉ fs.map Prod.fst := by
        rw [if_pos (by simpa using hk)] at hfs
        exact List.count_eq_zero.mp (by omega)
      have hnone : get? (.text t) fs = none := get?_text_eq_none_iff.mpr hnew
      rw [if_pos hk, if_pos hk, hnone]
      rfl
    · rw [if_neg hk, if_neg hk]

theorem get?_text_update (hfs : (fs.map Prod.fst).Nodup) (t : Text) (es : Entries) :
    get? (.text t) (update es fs) = (get? (.text t) fs).or (get? (.text t) es) :=
  get?_text_update_of_count (List.nodup_iff_count_le_one.mp hfs _) es

theorem get?_text_filter (p : Key → Bool) (t : Text) (es : Entries) :
    get? (.text t) (es.filter fun e => p e.1) =
      if p (.text t) then get? (.text t) es else none := by
  induction es with
  | nil => simp [get?]
  | cons e es ih =>
    obtain ⟨k, v⟩ := e
    have hstep : ((k, v) :: es).filter (fun e => p e.1) =
        if p k then (k, v) :: es.filter (fun e => p e.1) else es.filter (fun e => p e.1) :=
      List.filter_cons
    rw [hstep, get?_text_cons]
    by_cases hk : k = .text t
    · subst hk
      rw [if_pos rfl]
      split
      next => rw [get?_text_cons, if_pos rfl]
      next hp => rw [ih, if_neg hp]
    · rw [if_neg hk, ← ih]
      split
      next => rw [get?_text_cons, if_neg hk]
      next => rfl

/-- Every key is a text, and no key occurs twice. -/
structure IsObject (es : Entries) : Prop where
  text : ∀ k ∈ es.map Prod.fst, ∃ t, k = .text t
  nodup : (es.map Prod.fst).Nodup

theorem isObject_nil : IsObject [] :=
  ⟨by simp, List.nodup_nil⟩

theorem IsObject.tail (h : IsObject ((k, v) :: es)) : IsObject es :=
  ⟨fun l hl => h.text l (List.mem_cons_of_mem k hl), (List.nodup_cons.mp h.nodup).2⟩

theorem keys_set_text (t : Text) (v : Value) (es : Entries) :
    (set (.text t) v es).map Prod.fst =
      if Key.text t ∈ es.map Prod.fst then es.map Prod.fst else es.map Prod.fst ++ [.text t] := by
  induction es with
  | nil => rfl
  | cons e es ih =>
    obtain ⟨k, w⟩ := e
    rw [set, Key.text_same]
    by_cases hk : k = .text t
    · simp [hk]
    · simp only [hk, decide_false, Bool.false_eq_true, if_false, List.map_cons, ih, List.mem_cons,
        Ne.symm hk, false_or]
      split <;> rfl

theorem IsObject.set (h : IsObject es) (t : Text) (v : Value) :
    IsObject (Entries.set (.text t) v es) := by
  constructor <;> rw [keys_set_text] <;> split
  · exact h.text
  · intro k hk
    rcases List.mem_append.mp hk with hk | hk
    · exact h.text k hk
    · exact ⟨t, List.mem_singleton.mp hk⟩
  · exact h.nodup
  next hnew => exact List.nodup_append.mpr ⟨h.nodup, List.nodup_singleton _, by
      rintro k hk l hl rfl
      exact hnew (List.mem_singleton.mp hl ▸ hk)⟩

/-- Entries with texts as keys make an object, whichever keys occur more than once. -/
theorem isObject_ofList (h : ∀ k ∈ es.map Prod.fst, ∃ t, k = .text t) : IsObject (ofList es) := by
  have hupdate : ∀ old : Entries, IsObject old → IsObject (update old es) := by
    induction es with
    | nil => exact fun _ hold => hold
    | cons e es ih =>
      intro old hold
      obtain ⟨k, v⟩ := e
      obtain ⟨t, rfl⟩ := h k List.mem_cons_self
      exact ih (fun l hl => h l (List.mem_cons_of_mem _ hl)) _ (hold.set t v)
  exact hupdate [] isObject_nil

/-- No key is the same as an earlier one. -/
def IsMapping (es : Entries) : Prop :=
  es.Pairwise fun e f => f.1.same e.1 = false

instance (es : Entries) : Decidable (IsMapping es) :=
  inferInstanceAs (Decidable (es.Pairwise fun e f => f.1.same e.1 = false))

theorem mem_keys_set {l : Key} (h : l ∈ (set k v es).map Prod.fst) :
    l ∈ es.map Prod.fst ∨ l = k := by
  induction es with
  | nil => exact Or.inr (List.mem_singleton.mp h)
  | cons e es ih =>
    rw [set] at h
    split at h
    next => exact Or.inl h
    next =>
      rcases List.mem_cons.mp h with rfl | h
      · exact Or.inl List.mem_cons_self
      · exact (ih h).imp_left (List.mem_cons_of_mem _)

theorem IsMapping.set (h : IsMapping es) (k : Key) (v : Value) : IsMapping (set k v es) := by
  induction es with
  | nil => exact List.pairwise_singleton _ (k, v)
  | cons e es ih =>
    obtain ⟨hfirst, hrest⟩ := List.pairwise_cons.mp h
    rw [Entries.set]
    split
    next => exact List.pairwise_cons.mpr ⟨hfirst, hrest⟩
    next hnew =>
      refine List.pairwise_cons.mpr ⟨fun f hf => ?_, ih hrest⟩
      rcases mem_keys_set (List.mem_map_of_mem hf) with hold | hk
      · obtain ⟨g, hg, hgf⟩ := List.mem_map.mp hold
        exact hgf ▸ hfirst g hg
      · exact hk ▸ Bool.eq_false_iff.mpr hnew

/-- Entries make a mapping, whichever keys occur more than once. -/
theorem isMapping_ofList (es : Entries) : IsMapping (ofList es) :=
  List.foldlRecOn es _ List.Pairwise.nil fun _ hold e _ => hold.set e.1 e.2

theorem IsMapping.count_text_le_one (h : IsMapping es) (t : Text) :
    (es.map Prod.fst).count (.text t) ≤ 1 := by
  induction es with
  | nil => simp
  | cons e es ih =>
    obtain ⟨hfirst, hrest⟩ := List.pairwise_cons.mp h
    rw [List.map_cons, List.count_cons]
    split
    next he =>
      have hnew : Key.text t ∉ es.map Prod.fst := by
        intro hmem
        obtain ⟨f, hf, hft⟩ := List.mem_map.mp hmem
        have hsame := hfirst f hf
        rw [hft, beq_iff_eq.mp he, Key.text_same] at hsame
        simp at hsame
      have hnone := List.count_eq_zero.mpr hnew
      omega
    next => exact ih hrest

theorem set_of_new (h : ∀ l ∈ es.map Prod.fst, k.same l = false) (v : Value) :
    set k v es = es ++ [(k, v)] := by
  induction es with
  | nil => rfl
  | cons e es ih =>
    obtain ⟨l, w⟩ := e
    obtain ⟨hl, hes⟩ := List.forall_mem_cons.mp h
    rw [set, if_neg (by simp [hl]), ih hes]
    rfl

/-- Keys that are the same as no earlier one are put behind what is there, in their order. -/
theorem IsMapping.update_eq_append (h : IsMapping fs)
    (hnew : ∀ f ∈ fs, ∀ l ∈ es.map Prod.fst, f.1.same l = false) : update es fs = es ++ fs := by
  induction fs generalizing es with
  | nil => exact (List.append_nil es).symm
  | cons f fs ih =>
    obtain ⟨k, v⟩ := f
    obtain ⟨hfirst, hrest⟩ := List.pairwise_cons.mp h
    obtain ⟨hk, hfs⟩ := List.forall_mem_cons.mp hnew
    have hstep : update es ((k, v) :: fs) = update (Entries.set k v es) fs := rfl
    rw [hstep, set_of_new hk, ih hrest, List.append_assoc, List.singleton_append]
    intro f hf l hl
    rw [List.map_append, List.mem_append, List.map_singleton, List.mem_singleton] at hl
    rcases hl with hl | rfl
    · exact hfs f hf l hl
    · exact hfirst f hf

/-- Entries are taken over as they are, in their order, when they make a mapping already. -/
theorem ofList_eq_self_iff : ofList es = es ↔ IsMapping es :=
  ⟨fun h => h ▸ isMapping_ofList es,
    fun h => h.update_eq_append fun _ _ _ hl => absurd hl List.not_mem_nil⟩

theorem IsObject.isMapping (h : IsObject es) : IsMapping es := by
  refine (List.pairwise_map.mp h.nodup).imp_of_mem fun {e f} he _ hne => ?_
  obtain ⟨t, ht⟩ := h.text e.1 (List.mem_map_of_mem he)
  rw [ht, Key.same_text]
  exact decide_eq_false fun hf => hne (ht.trans hf.symm)

theorem get?_append (k : Key) (es fs : Entries) :
    get? k (es ++ fs) = (get? k es).or (get? k fs) := by
  induction es with
  | nil => rfl
  | cons e es ih =>
    rw [List.cons_append, get?, get?, ih]
    split <;> rfl

theorem get?_eq_none_of_texts (hk : ∀ t, k ≠ .text t)
    (h : ∀ l ∈ es.map Prod.fst, ∃ t, l = .text t) : get? k es = none := by
  induction es with
  | nil => rfl
  | cons e es ih =>
    obtain ⟨⟨t, ht⟩, hes⟩ := List.forall_mem_cons.mp h
    rw [get?, ht, Key.same_text, if_neg (by simpa using hk t), ih hes]

/-- Keys other than texts are put behind what is there. -/
theorem IsMapping.get?_update_of_not_text (hfs : IsMapping fs) (hk : ∀ t, k ≠ .text t)
    (hnew : ∀ l ∈ es.map Prod.fst, ∀ f ∈ fs, (∃ t, f.1 = .text t) ∨ f.1.same l = false) :
    get? k (update es fs) = (get? k es).or (get? k fs) := by
  induction fs generalizing es with
  | nil => simp [update, get?]
  | cons f fs ih =>
    obtain ⟨l, v⟩ := f
    obtain ⟨hfirst, hrest⟩ := List.pairwise_cons.mp hfs
    have hstep : update es ((l, v) :: fs) = update (Entries.set l v es) fs := rfl
    rw [hstep]
    by_cases hl : ∃ t, l = .text t
    · obtain ⟨t, rfl⟩ := hl
      have hset : get? k (Entries.set (.text t) v es) = get? k es := by
        rw [get?_set_text, if_neg (hk t)]
      rw [ih hrest ?_, hset, get?, Key.same_text, if_neg (by simpa using hk t)]
      intro m hm f hf
      rcases mem_keys_set hm with hm | rfl
      · exact hnew m hm f (List.mem_cons_of_mem _ hf)
      · exact f.1.text_or_not_same_text t
    · have hlast : Entries.set l v es = es ++ [(l, v)] :=
        set_of_new (fun m hm => (hnew m hm (l, v) List.mem_cons_self).resolve_left hl) v
      rw [hlast, ih hrest ?_, get?_append, Option.or_assoc]
      · congr 1
        rw [get?, get?, get?]
        split <;> rfl
      · intro m hm f hf
        rw [List.map_append, List.mem_append, List.map_singleton, List.mem_singleton] at hm
        rcases hm with hm | rfl
        · exact hnew m hm f (List.mem_cons_of_mem _ hf)
        · exact Or.inr (hfirst f hf)

/-- A mapping that is taken over goes before texts that are there. -/
theorem IsMapping.get?_update (hfs : IsMapping fs) (hes : ∀ l ∈ es.map Prod.fst, ∃ t, l = .text t)
    (k : Key) : get? k (update es fs) = (get? k fs).or (get? k es) := by
  by_cases hk : ∃ t, k = .text t
  · obtain ⟨t, rfl⟩ := hk
    exact get?_text_update_of_count (hfs.count_text_le_one t) es
  · have hkt : ∀ t, k ≠ .text t := fun t ht => hk ⟨t, ht⟩
    rw [hfs.get?_update_of_not_text hkt, get?_eq_none_of_texts hkt hes]
    · exact (Option.or_none).symm
    · intro l hl f hf
      obtain ⟨t, rfl⟩ := hes l hl
      exact f.1.text_or_not_same_text t

end Entries

end Stencil

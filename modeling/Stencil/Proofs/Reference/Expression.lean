import Stencil.Proofs.Text.Lines
import Stencil.Reference.TypeText

namespace Stencil.Reference

/-- The characters that give the text of a type its structure. -/
def isStructural (c : Char) : Bool :=
  c = '<' || c = '>' || c = ',' || c = '[' || c = ']'

/-- Holds nothing that gives the text of a type its structure. -/
def IsBare (t : Text) : Prop :=
  ∀ c ∈ t, isStructural c = false

instance (t : Text) : Decidable (IsBare t) :=
  List.decidableBAll (fun c => isStructural c = false) t

/-- The name of a type, without white space and structure. -/
structure TypeName where
  text : Text
  text_ne : text ≠ []
  visible : Text.IsVisible text
  bare : IsBare text

theorem TypeName.notMem (n : TypeName) {c : Char} (h : isStructural c = true) : c ∉ n.text := by
  intro hmem
  rw [n.bare c hmem] at h
  exact Bool.false_ne_true h

/-- A name, a name with arguments, or an array. -/
inductive TypeExpr
  | name (n : TypeName)
  | generic (n : TypeName) (first : TypeExpr) (rest : List TypeExpr)
  | array (element : TypeExpr)

namespace TypeExpr

@[elab_as_elim, induction_eliminator]
theorem induction {motive : TypeExpr → Prop} (name : ∀ n, motive (.name n))
    (generic : ∀ n first rest, (∀ e ∈ first :: rest, motive e) → motive (.generic n first rest))
    (array : ∀ e, motive e → motive (.array e)) (e : TypeExpr) : motive e := by
  refine @TypeExpr.rec motive (fun es => ∀ e ∈ es, motive e) name ?_ array ?_ ?_ e
  · intro n first rest hfirst hrest
    exact generic n first rest (List.forall_mem_cons.mpr ⟨hfirst, hrest⟩)
  · simp
  · intro first rest hfirst hrest
    exact List.forall_mem_cons.mpr ⟨hfirst, hrest⟩

mutual

/-- The text of an expression. -/
def text : TypeExpr → Text
  | .name n => n.text
  | .generic n first rest =>
    n.text ++ '<' :: (Text.join "," (first.text :: textsOf rest) ++ ['>'])
  | .array e => e.text ++ ['[', ']']

def textsOf : List TypeExpr → List Text
  | [] => []
  | e :: es => e.text :: textsOf es

end

mutual

/-- The names in an expression, an outer one in front of those in its arguments. -/
def names : TypeExpr → List Text
  | .name n => [n.text]
  | .generic n first rest => n.text :: (first.names ++ namesOf rest)
  | .array e => e.names

def namesOf : List TypeExpr → List Text
  | [] => []
  | e :: es => e.names ++ namesOf es

end

def isArray : TypeExpr → Bool
  | .array _ => true
  | _ => false

mutual

/-- No array is an array of arrays. -/
def isFlat : TypeExpr → Bool
  | .name _ => true
  | .generic _ first rest => first.isFlat && areFlat rest
  | .array e => !e.isArray && e.isFlat

def areFlat : List TypeExpr → Bool
  | [] => true
  | e :: es => e.isFlat && areFlat es

end

theorem textsOf_eq_map (es : List TypeExpr) : textsOf es = es.map text := by
  induction es with
  | nil => rfl
  | cons e es ih => rw [textsOf, ih, List.map_cons]

theorem namesOf_eq_flatMap (es : List TypeExpr) : namesOf es = es.flatMap names := by
  induction es with
  | nil => rfl
  | cons e es ih => rw [namesOf, ih, List.flatMap_cons]

theorem areFlat_eq_all (es : List TypeExpr) : areFlat es = es.all isFlat := by
  induction es with
  | nil => rfl
  | cons e es ih => rw [areFlat, ih, List.all_cons]

variable (n : TypeName) (first : TypeExpr) (rest : List TypeExpr)

theorem text_generic : (generic n first rest).text =
    n.text ++ '<' :: (Text.join "," ((first :: rest).map text) ++ ['>']) := by
  rw [text, textsOf_eq_map, List.map_cons]

theorem names_generic : (generic n first rest).names = n.text :: (first :: rest).flatMap names := by
  rw [names, namesOf_eq_flatMap, List.flatMap_cons]

theorem isFlat_generic : (generic n first rest).isFlat = (first :: rest).all isFlat := by
  rw [isFlat, areFlat_eq_all, List.all_cons]

theorem text_ne_nil (e : TypeExpr) : e.text ≠ [] := by
  cases e with
  | name n => exact n.text_ne
  | generic n first rest => simp [text]
  | array e => simp [text]

theorem isVisible_text (e : TypeExpr) : Text.IsVisible e.text := by
  induction e with
  | name n => exact n.visible
  | generic n first rest ih =>
    rw [text_generic]
    have hjoin : Text.IsVisible (Text.join "," ((first :: rest).map text)) := by
      intro c hc
      rcases Text.mem_join hc with hcomma | ⟨t, ht, hct⟩
      · rw [List.mem_singleton.mp hcomma]
        decide
      · obtain ⟨e, he, rfl⟩ := List.mem_map.mp ht
        exact ih e he c hct
    have hclosed := Text.isVisible_append.mpr ⟨hjoin, (by decide : Text.IsVisible ['>'])⟩
    exact Text.isVisible_append.mpr ⟨n.visible, Text.isVisible_cons.mpr ⟨by decide, hclosed⟩⟩
  | array e ih => exact Text.isVisible_append.mpr ⟨ih, by decide⟩

theorem isBare_of_mem_names {e : TypeExpr} {name : Text} (h : name ∈ e.names) :
    IsBare name := by
  induction e with
  | name n => exact List.mem_singleton.mp h ▸ n.bare
  | generic n first rest ih =>
    rw [names_generic, List.mem_cons, List.mem_flatMap] at h
    rcases h with rfl | ⟨e, he, hname⟩
    · exact n.bare
    · exact ih e he hname
  | array e ih => exact ih h

end TypeExpr

/-- A scan for commas goes over the text and comes out at the depth that it had. -/
def Passes (depth : Int) (t : Text) : Prop :=
  ∀ current rest, argumentsFrom depth current (t ++ rest) = argumentsFrom depth (current ++ t) rest

section

variable {depth : Int} {s t : Text}

theorem passes_nil : Passes depth [] := by
  intro current rest
  rw [List.nil_append, List.append_nil]

theorem Passes.append (hs : Passes depth s) (ht : Passes depth t) : Passes depth (s ++ t) := by
  intro current rest
  rw [List.append_assoc, hs, ht, List.append_assoc]

theorem passes_singleton {c : Char} (h : isStructural c = false) : Passes depth [c] := by
  intro current rest
  have hc : c ≠ ',' ∧ c ≠ '<' ∧ c ≠ '>' := by
    refine ⟨?_, ?_, ?_⟩ <;> rintro rfl <;> simp [isStructural] at h
  simp [argumentsFrom, hc]

theorem passes_of_bare (h : IsBare t) : Passes depth t := by
  induction t with
  | nil => exact passes_nil
  | cons c t ih =>
    have hc : Passes depth [c] := passes_singleton (h c (by simp))
    exact hc.append (ih fun d hd => h d (List.mem_cons_of_mem c hd))

theorem passes_comma (h : depth ≠ 0) : Passes depth [','] := by
  intro current rest
  simp [argumentsFrom, h]

theorem Passes.bracketed (h : Passes (depth + 1) t) : Passes depth ('<' :: (t ++ ['>'])) := by
  intro current rest
  have hopen : argumentsFrom depth current ('<' :: (t ++ '>' :: rest)) =
      argumentsFrom (depth + 1) (current ++ ['<']) (t ++ '>' :: rest) := by
    simp [argumentsFrom]
  have hclose : argumentsFrom (depth + 1) (current ++ ['<'] ++ t) ('>' :: rest) =
      argumentsFrom depth (current ++ ['<'] ++ t ++ ['>']) rest := by
    simp [argumentsFrom]
  calc argumentsFrom depth current ('<' :: (t ++ ['>']) ++ rest)
      = argumentsFrom depth current ('<' :: (t ++ '>' :: rest)) := by simp
    _ = argumentsFrom depth (current ++ ['<'] ++ t ++ ['>']) rest := by rw [hopen, h, hclose]
    _ = argumentsFrom depth (current ++ '<' :: (t ++ ['>'])) rest := by simp

theorem passes_join (hdepth : depth ≠ 0) {ts : List Text} (h : ∀ t ∈ ts, Passes depth t) :
    Passes depth (Text.join "," ts) := by
  induction ts with
  | nil => exact passes_nil
  | cons t ts ih =>
    have ht := h t (by simp)
    have hts := ih fun u hu => h u (List.mem_cons_of_mem t hu)
    cases ts with
    | nil => simpa [Text.join] using ht
    | cons u ts =>
      rw [Text.join_cons_cons]
      exact ht.append ((passes_comma hdepth).append hts)

theorem TypeExpr.passes (e : TypeExpr) (h : 0 ≤ depth) : Passes depth e.text := by
  induction e generalizing depth with
  | name n => exact passes_of_bare n.bare
  | generic n first rest ih =>
    rw [text_generic]
    have hjoin : Passes (depth + 1) (Text.join "," ((first :: rest).map text)) := by
      refine passes_join (by omega) fun t ht => ?_
      obtain ⟨e, he, rfl⟩ := List.mem_map.mp ht
      exact ih e he (by omega)
    exact (passes_of_bare n.bare).append hjoin.bracketed
  | array e ih =>
    have hbrackets : Passes depth ['[', ']'] := by
      intro current rest
      simp [argumentsFrom]
    exact (ih h).append hbrackets

end

end Stencil.Reference

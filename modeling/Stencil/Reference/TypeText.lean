import Stencil.Text.Blank
import Stencil.Text.Case

namespace Stencil.Reference

def builtinTypes : List Text :=
  ["any", "map", "set", "string", "number", "integer", "int", "long", "short", "float", "double",
    "decimal", "boolean", "bool", "byte", "bytes", "char", "date", "datetime", "object", "void"].map
      String.toList

def isBuiltin (name : Text) : Bool :=
  builtinTypes.contains (Text.lower name)

/-- Cuts at the commas that are not nested in brackets; `depth` is the nesting so far, which
unbalanced brackets make negative, and `current` the argument so far. -/
def argumentsFrom (depth : Int) (current : Text) : Text → List Text
  | [] => [current]
  | c :: t =>
    if c = ',' && depth = 0 then current :: argumentsFrom depth [] t
    else
      argumentsFrom (if c = '<' then depth + 1 else if c = '>' then depth - 1 else depth)
        (current ++ [c]) t

def splitArguments (t : Text) : List Text :=
  ((argumentsFrom 0 [] t).map Text.strip).filter fun argument => !argument.isEmpty

def element (t : Text) : Text :=
  if Text.endsWith "[]" (Text.strip t) then
    Text.strip ((Text.strip t).take ((Text.strip t).length - 2))
  else Text.strip t

/-- The text between the first opening bracket and a closing bracket at the end. -/
def argumentText (t : Text) : Text :=
  if Text.endsWith ">" t then t.dropLast else t

theorem length_element_le (t : Text) : (element t).length ≤ t.length := by
  unfold element
  split
  · exact Nat.le_trans (Text.length_strip_le _)
      (Nat.le_trans (List.length_take_le' _ _) (Text.length_strip_le t))
  · exact Text.length_strip_le t

theorem length_argumentText_le (t : Text) : (argumentText t).length ≤ t.length := by
  unfold argumentText
  split
  · simp
  · exact Nat.le_refl _

theorem length_of_mem_argumentsFrom {depth : Int} {current t argument : Text}
    (h : argument ∈ argumentsFrom depth current t) :
    argument.length ≤ current.length + t.length := by
  induction t generalizing depth current with
  | nil => simp_all [argumentsFrom]
  | cons c t ih =>
    unfold argumentsFrom at h
    split at h
    · rcases List.mem_cons.mp h with h | h
      · simp [h]
      · have := ih h
        simp at this ⊢
        omega
    · have := ih h
      simp at this ⊢
      omega

theorem length_of_mem_splitArguments {t argument : Text} (h : argument ∈ splitArguments t) :
    argument.length ≤ t.length := by
  obtain ⟨raw, hraw, rfl⟩ := List.mem_map.mp (List.mem_filter.mp h).1
  have := length_of_mem_argumentsFrom hraw
  have := Text.length_strip_le raw
  simp at *
  omega

/-- The names in the text of a type such as `Map<String, Foo[]>[]`: the outer name first, then those of
the arguments from left to right. -/
def names (t : Text) : List Text :=
  match _h : Text.cut? "<" (element t) with
  | none => if (element t).isEmpty then [] else [element t]
  | some (outer, inner) =>
    let outer := Text.strip outer
    (if outer.isEmpty then [] else [outer]) ++
      (splitArguments (argumentText inner)).attach.flatMap fun ⟨argument, _hmem⟩ => names argument
termination_by t.length
decreasing_by
  have h₁ := Text.length_of_cut? _h
  have h₂ := length_element_le t
  have h₃ := length_of_mem_splitArguments _hmem
  have h₄ := length_argumentText_le inner
  simp at h₁
  omega

end Stencil.Reference

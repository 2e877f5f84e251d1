namespace Stencil

/-- Text is the list of its characters, so functions on it recurse on what they read. A character is
a Unicode scalar value, never half of a surrogate pair. -/
abbrev Text := List Char

instance : Coe String Text := ⟨String.toList⟩

namespace Text

/-- The rest of a text behind a given beginning. -/
def after? : Text → Text → Option Text
  | [], t => some t
  | _ :: _, [] => none
  | c :: s, d :: t => if c = d then after? s t else none

def cut? (mark : Text) : Text → Option (Text × Text)
  | [] => if mark = [] then some ([], []) else none
  | c :: t =>
    match after? mark (c :: t) with
    | some rest => some ([], rest)
    | none => (cut? mark t).map fun (left, right) => (c :: left, right)

def includes (mark t : Text) : Bool :=
  (cut? mark t).isSome

/-- The text in front of the first mark and the text behind it; all of it is in front if there is
no mark. -/
def partition (mark t : Text) : Text × Text :=
  (cut? mark t).getD (t, [])

def startsWith (start t : Text) : Bool :=
  start.isPrefixOf t

def endsWith (ending t : Text) : Bool :=
  ending.isSuffixOf t

def join (sep : Text) (ts : List Text) : Text :=
  sep.intercalate ts

/-- The pieces between the line breaks; there is always at least one. -/
def lines (t : Text) : List Text :=
  t.splitOn '\n'

def unlines (ts : List Text) : Text :=
  join ['\n'] ts

def trimEnd (p : Char → Bool) (t : Text) : Text :=
  (t.reverse.dropWhile p).reverse

def trim (p : Char → Bool) (t : Text) : Text :=
  trimEnd p (t.dropWhile p)

/-- Puts `new` for every occurrence of `old`, from left to right; `skip` counts the characters of
an occurrence that are still to be passed over. -/
def replaceFrom (old new : Text) : Nat → Text → Text
  | _, [] => []
  | skip + 1, _ :: t => replaceFrom old new skip t
  | 0, c :: t =>
    if startsWith old (c :: t) then new ++ replaceFrom old new (old.length - 1) t
    else c :: replaceFrom old new 0 t

def replace (old new t : Text) : Text :=
  replaceFrom old new 0 t

def substitute (old new : Char) (t : Text) : Text :=
  t.map fun c => if c = old then new else c

/-- Lies in one of the closed ranges of code points, which are listed in rising order. -/
def inRanges : List (Nat × Nat) → Char → Bool
  | [], _ => false
  | (first, last) :: ranges, c =>
    if c.toNat < first then false else c.toNat ≤ last || inRanges ranges c

theorem length_trimEnd_le (p : Char → Bool) (t : Text) : (trimEnd p t).length ≤ t.length := by
  simpa [trimEnd] using (List.dropWhile_sublist p (l := t.reverse)).length_le

theorem length_of_after? {start t rest : Text} (h : after? start t = some rest) :
    rest.length + start.length = t.length := by
  induction start generalizing t with
  | nil => simp_all [after?]
  | cons c s ih =>
    cases t with
    | nil => simp [after?] at h
    | cons d t =>
      simp only [after?] at h
      split at h
      · have := ih h
        simp
        omega
      · simp at h

theorem length_of_cut? {mark t left right : Text} (h : cut? mark t = some (left, right)) :
    left.length + mark.length + right.length = t.length := by
  induction t generalizing left right with
  | nil =>
    simp only [cut?] at h
    split at h
    · simp_all
    · simp at h
  | cons c t ih =>
    simp only [cut?] at h
    split at h
    next rest hrest =>
      have := length_of_after? hrest
      simp_all
      omega
    next =>
      obtain ⟨⟨l, r⟩, hlr, he⟩ := Option.map_eq_some_iff.mp h
      simp only [Prod.mk.injEq] at he
      have := ih hlr
      simp [← he.1, ← he.2]
      omega

end Text

end Stencil

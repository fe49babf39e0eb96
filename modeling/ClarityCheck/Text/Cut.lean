/-!
# Cutting texts

Pieces of a text: what follows a given beginning, the parts between separators, the part before and
after one separator.

Main statements: `dropStart?_eq_some_iff` (a beginning is dropped exactly when the text is that
beginning and the rest), `splitOn_append_cons` (a separator always cuts) and `splitOn_of_not_mem` (a
text without the separator is one piece).
-/

namespace ClarityCheck.Text

/-- What follows `start` in a text that begins with it. -/
def dropStart? (start text : List Char) : Option (List Char) :=
  match start, text with
  | [], t => some t
  | _ :: _, [] => none
  | c :: s, d :: t => if c = d then dropStart? s t else none

theorem dropStart?_eq_some_iff {start text rest : List Char} :
    dropStart? start text = some rest ↔ text = start ++ rest := by
  induction start generalizing text with
  | nil => simp [dropStart?]
  | cons c s ih =>
    cases text with
    | nil => simp [dropStart?]
    | cons d t =>
      by_cases h : c = d
      · simp [dropStart?, h, ih]
      · simp [dropStart?, h, Ne.symm h]

/-- What precedes `ending` in a text that ends with it. -/
def dropEnd? (ending text : List Char) : Option (List Char) :=
  (dropStart? ending.reverse text.reverse).map List.reverse

/-! ## Separators -/

/-- Puts a character in front of the first of several pieces. -/
def consToFirst (c : Char) : List (List Char) → List (List Char)
  | [] => [[c]]
  | l :: ls => (c :: l) :: ls

/-- Cuts a text at every occurrence of a separator, which the pieces leave out. A text with `n`
separators has `n + 1` pieces. -/
def splitOn (sep : Char) (s : List Char) : List (List Char) :=
  s.foldr (fun c ls => if c = sep then [] :: ls else consToFirst c ls) [[]]

@[simp] theorem splitOn_nil (sep : Char) : splitOn sep [] = [[]] := rfl

theorem splitOn_cons (sep c : Char) (s : List Char) :
    splitOn sep (c :: s) = if c = sep then [] :: splitOn sep s else consToFirst c (splitOn sep s) :=
  rfl

theorem splitOn_ne_nil (sep : Char) (s : List Char) : splitOn sep s ≠ [] := by
  cases s with
  | nil => simp
  | cons c s =>
    rw [splitOn_cons]
    split
    · simp
    · cases splitOn sep s <;> simp [consToFirst]

/-- A text without the separator is one piece. -/
theorem splitOn_of_not_mem {sep : Char} {s : List Char} (h : sep ∉ s) : splitOn sep s = [s] := by
  induction s with
  | nil => rfl
  | cons c s ih =>
    simp only [List.mem_cons, not_or] at h
    rw [splitOn_cons, if_neg (Ne.symm h.1), ih h.2, consToFirst]

/-- A separator always cuts. -/
theorem splitOn_append_cons {sep : Char} {s t : List Char} (h : sep ∉ s) :
    splitOn sep (s ++ sep :: t) = s :: splitOn sep t := by
  induction s with
  | nil => simp [splitOn_cons]
  | cons c s ih =>
    simp only [List.mem_cons, not_or] at h
    rw [List.cons_append, splitOn_cons, if_neg (Ne.symm h.1), ih h.2, consToFirst]

/-- The parts of a text before and after the first occurrence of a separator. -/
def cut? (sep : Char) (s : List Char) : Option (List Char × List Char) :=
  match s.dropWhile (· ≠ sep) with
  | [] => none
  | _ :: rest => some (s.takeWhile (· ≠ sep), rest)

/-- The pieces with a text between each two of them. -/
def joinWith (sep : String) (pieces : List String) : String := sep.intercalate pieces

/-! ## Lines -/

/-- Cuts a text at every line feed. The last line is empty when the text ends in a line feed. -/
def splitLines (s : List Char) : List (List Char) := splitOn '\n' s

/-- The line without a carriage return at its end. -/
def dropCarriageReturn (l : List Char) : List Char :=
  if l.getLast? = some '\r' then l.dropLast else l

/-- The lines of captured output: an empty line after the last line feed is not one, and a carriage
return before a line feed belongs to the line's end. -/
def outputLines (s : List Char) : List (List Char) :=
  match (splitLines s).reverse with
  | [] => []
  | last :: before =>
    (before.reverse.map dropCarriageReturn) ++ (if last = [] then [] else [last])

end ClarityCheck.Text

import ClarityCheck.Url.Domain.Tables

/-!
# The composed form of a text

Characters that look alike can be written in several ways: as one character, or as a letter with
marks behind it in some order. The composed form takes everything apart, puts the marks in order and
joins what can be joined again.
-/

namespace ClarityCheck.Url.Domain

/-- The number of levels that a character may be taken apart in. -/
def decompositionDepth : Nat := 8

/-- The pair that a character stands for. Syllables of Hangul follow from their numbers. -/
def pair? (c : Char) : Option (Char × Char) :=
  let n := c.toNat
  if 0xAC00 ≤ n ∧ n ≤ 0xD7A3 then
    let s := n - 0xAC00
    if s % 28 = 0 then some (Char.ofNat (0x1100 + s / 588), Char.ofNat (0x1161 + s % 588 / 28))
    else some (Char.ofNat (n - s % 28), Char.ofNat (0x11A7 + s % 28))
  else
    (compositionTable.find? (·.1 = n)).map fun e => (Char.ofNat e.2.1, Char.ofNat e.2.2)

/-- Takes a character apart. -/
def takeApart : Nat → Char → List Char
  | 0, c => [c]
  | depth + 1, c =>
    match pair? c with
    | some (a, b) => takeApart depth a ++ [b]
    | none => [c]

/-- Puts a mark in front of marks that are in order, behind those of a lower class. -/
def insertMark (c : Char) : List Char → List Char
  | [] => [c]
  | d :: s =>
    if combiningClass d ≠ 0 ∧ combiningClass d < combiningClass c then d :: insertMark c s
    else c :: d :: s

/-- Puts the marks between letters in the order of their classes. -/
def orderMarks (s : List Char) : List Char :=
  s.foldr (fun c t => if combiningClass c = 0 then c :: t else insertMark c t) []

/-- The character that a pair of characters joins to. -/
def join? (a b : Char) : Option Char :=
  let m := a.toNat
  let n := b.toNat
  if 0x1100 ≤ m ∧ m ≤ 0x1112 ∧ 0x1161 ≤ n ∧ n ≤ 0x1175 then
    some (Char.ofNat (0xAC00 + (m - 0x1100) * 588 + (n - 0x1161) * 28))
  else if 0xAC00 ≤ m ∧ m ≤ 0xD7A3 ∧ (m - 0xAC00) % 28 = 0 ∧ 0x11A8 ≤ n ∧ n ≤ 0x11C2 then
    some (Char.ofNat (m + (n - 0x11A7)))
  else (compositionTable.find? (fun e => e.2.1 = m ∧ e.2.2 = n)).map fun e => Char.ofNat e.1

/-- Joins what follows a letter with it. `kept` are the marks behind the letter that did not join,
the last one first. -/
def joinOnto (letter : Char) (kept : List Char) : List Char → List Char
  | [] => letter :: kept.reverse
  | c :: s =>
    let blocked := match kept with
      | [] => false
      | k :: _ => combiningClass c ≤ combiningClass k
    match if blocked then none else join? letter c with
    | some j => joinOnto j kept s
    | none =>
      if combiningClass c = 0 then letter :: kept.reverse ++ joinOnto c [] s
      else joinOnto letter (c :: kept) s

/-- Joins the characters of a text whose marks are in order. -/
def joinAll (s : List Char) : List Char :=
  let marks := s.takeWhile (combiningClass · ≠ 0)
  match s.dropWhile (combiningClass · ≠ 0) with
  | [] => marks
  | c :: rest => marks ++ joinOnto c [] rest

/-- The composed form of a text. Text in ASCII is its own. -/
def composed (s : List Char) : List Char :=
  if s.all (fun c => c.toNat < 0x80) then s
  else joinAll (orderMarks (s.flatMap (takeApart decompositionDepth)))

end ClarityCheck.Url.Domain

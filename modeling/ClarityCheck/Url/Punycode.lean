/-!
# Punycode

Labels of domain names in the letters and digits of ASCII. The characters beyond ASCII are inserted
one by one, in the order of their code points and, where these are equal, of their places. An
insertion is told by the number of states that lie between it and the one before: with `h`
characters in place, the next code point is `h + 1` states away.

Reading an integer uses up some of the text, as the type of `readInteger` says, which is why
decoding ends.
-/

namespace ClarityCheck.Url.Punycode

/-- The character of a digit: `a` to `z`, then `0` to `9`. -/
def digit (d : Nat) : Char := Char.ofNat (if d < 26 then 0x61 + d else 0x16 + d)

/-- The digit that a character stands for, in any case. -/
def digit? (c : Char) : Option Nat :=
  if 'a' ≤ c ∧ c ≤ 'z' then some (c.toNat - 0x61)
  else if 'A' ≤ c ∧ c ≤ 'Z' then some (c.toNat - 0x41)
  else if '0' ≤ c ∧ c ≤ '9' then some (c.toNat - 0x16)
  else none

/-- The smallest digit that is not the last one of its integer, at a weight counted by `k`. -/
def threshold (bias k : Nat) : Nat := min 26 (max 1 (k - bias))

theorem threshold_bounds (bias k : Nat) : 1 ≤ threshold bias k ∧ threshold bias k ≤ 26 := by
  unfold threshold
  omega

/-- Divides by 35 while a number is above 455 and counts the divisions. -/
def shrink (n : Nat) : Nat × Nat :=
  if 455 < n then
    let r := shrink (n / 35)
    (r.1, r.2 + 1)
  else (n, 0)
termination_by n
decreasing_by omega

/-- The bias behind an integer, with `count` characters in place. -/
def adapt (delta count : Nat) (first : Bool) : Nat :=
  let d := delta / (if first then 700 else 2)
  let r := shrink (d + d / count)
  36 * r.2 + 36 * r.1 / (r.1 + 38)

/-- The digits of an integer, the lowest first. -/
def integer (bias k n : Nat) : List Char :=
  let t := threshold bias k
  if n < t then [digit n]
  else digit (t + (n - t) % (36 - t)) :: integer bias (k + 36) ((n - t) / (36 - t))
termination_by n
decreasing_by
  have h := threshold_bounds bias k
  have : (n - t) / (36 - t) ≤ n - t := Nat.div_le_self _ _
  simp only [t] at *
  omega

/-- The characters in place and the state behind the last insertion. -/
structure Encoder where
  code : Nat
  place : Nat
  count : Nat
  bias : Nat
  written : List Char

/-- Inserts a code point at a place among the characters that are in place. -/
def Encoder.insert (e : Encoder) (code place : Nat) : Encoder :=
  let delta := (code - e.code) * (e.count + 1) + place - e.place
  { code, place := place + 1, count := e.count + 1,
    bias := adapt delta (e.count + 1) (e.place = 0),
    written := e.written ++ integer e.bias 36 delta }

/-- The code points beyond ASCII with their indices, in the order of insertion. -/
def insertions (label : List Char) : List (Nat × Nat) :=
  ((label.zipIdx.filter (fun p => 0x80 ≤ p.1.toNat)).map (fun p => (p.1.toNat, p.2))).mergeSort
    (fun a b => a.1 ≤ b.1)

/-- The label in ASCII. -/
def encode (label : List Char) : List Char :=
  let basic := label.filter (fun c => c.toNat < 0x80)
  let start : Encoder := ⟨0x80, 0, basic.length, 72, []⟩
  let done := (insertions label).foldl
    (fun e p => e.insert p.1 ((label.take p.2).countP (fun c => c.toNat ≤ p.1))) start
  (if basic.isEmpty then [] else basic ++ ['-']) ++ done.written

/-! ## Decoding -/

/-- What is left of a text behind something that was read. -/
abbrev Rest (s : List Char) := { r : List Char // r.length < s.length }

/-- Reads an integer: its digits from weight `w` on are added to `n`. -/
def readInteger (bias k w n : Nat) : (s : List Char) → Option (Nat × Rest s)
  | [] => none
  | c :: s =>
    match digit? c with
    | none => none
    | some d =>
      let t := threshold bias k
      if d < t then some (n + d * w, ⟨s, by simp⟩)
      else
        match readInteger bias (k + 36) (w * (36 - t)) (n + d * w) s with
        | none => none
        | some (m, r) => some (m, ⟨r.1, by have := r.2; simp; omega⟩)

/-- Reads insertions into the characters in place; `code` and `place` are the state behind the last
one. -/
def readInsertions (bias code place : Nat) (label : List Char) (s : List Char) :
    Option (List Char) :=
  if s.isEmpty then some label
  else
    match readInteger bias 36 1 0 s with
    | none => none
    | some (delta, r) =>
      have := r.2
      let count := label.length + 1
      let state := place + delta
      let code' := code + state / count
      if code'.isValidChar then
        readInsertions (adapt delta count (place = 0)) code' (state % count + 1)
          (label.insertIdx (state % count) (Char.ofNat code')) r.1
      else none
termination_by s.length

/-- The label that a text in ASCII stands for. -/
def decode? (s : List Char) : Option (List Char) :=
  let tail := (s.reverse.takeWhile (· ≠ '-')).reverse
  let basic := s.take (s.length - tail.length - 1)
  if basic.isEmpty then readInsertions 72 0x80 0 [] s
  else if basic.all (fun c => c.toNat < 0x80) then readInsertions 72 0x80 0 basic tail
  else none

end ClarityCheck.Url.Punycode

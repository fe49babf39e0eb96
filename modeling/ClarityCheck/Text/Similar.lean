/-!
# Similar words

How alike two words are after Jaro: characters match when they are equal and not too far apart, and
the measure grows with the part of either word that matches and with the order of the matches. It is
kept as a fraction, so that nothing is rounded.
-/

namespace ClarityCheck.Text

/-- A fraction. -/
structure Fraction where
  numerator : Nat
  denominator : Nat
  deriving DecidableEq, Repr

/-- One fraction is at most another one. -/
def Fraction.le (a b : Fraction) : Bool :=
  a.numerator * b.denominator ≤ b.numerator * a.denominator

namespace Similar

/-- Takes the first character that equals `c` and has not been taken, among those before `last`, of
which the first `skipped` are passed over. -/
def take? (c : Char) (skipped last : Nat) : List (Char × Bool) → Option (List (Char × Bool))
  | [] => none
  | (d, taken) :: rest =>
    match last with
    | 0 => none
    | last + 1 =>
      if skipped = 0 ∧ c = d ∧ !taken then some ((d, true) :: rest)
      else (take? c (skipped - 1) last rest).map ((d, taken) :: ·)

/-- The characters of a word that match one of `others`, in order, and what has been taken of these
in the end. `position` is the place of the first character and `reach` how far a match may lie from
its character. -/
def matchAll (reach : Nat) : (position : Nat) → List Char → List (Char × Bool) →
    List Char × List (Char × Bool)
  | _, [], others => ([], others)
  | position, c :: word, others =>
    match take? c (position - reach) (position + reach + 1) others with
    | some others =>
      let (found, others) := matchAll reach (position + 1) word others
      (c :: found, others)
    | none => matchAll reach (position + 1) word others

/-- How alike two words are, between nought and one. -/
def similarity (a b : List Char) : Fraction :=
  if a = [] ∧ b = [] then ⟨1, 1⟩
  else
    let reach := max a.length b.length / 2 - 1
    let (found, others) := matchAll reach 0 a (b.map (·, false))
    let taken := (others.filter (·.2)).map (·.1)
    let m := found.length
    if m = 0 then ⟨0, 1⟩
    else
      let swapped := ((found.zip taken).filter fun p => p.1 ≠ p.2).length / 2
      ⟨m * m * b.length + m * m * a.length + (m - swapped) * a.length * b.length,
        3 * a.length * b.length * m⟩

/-- The similarity from which on a word is offered instead of another one. -/
def closeness : Fraction := ⟨7, 10⟩

end Similar

/-- The words on offer that are close to what was written, the closest one last. -/
def suggestions (written : String) (offered : List String) : List String :=
  let rated := offered.map fun w => (Similar.similarity written.toList w.toList, w)
  ((rated.filter fun r => Similar.closeness.le r.1).mergeSort fun a b => a.1.le b.1).map (·.2)

end ClarityCheck.Text

/-!
# Balance of parentheses

Openers are counted across the whole document. A closer that meets no open form is *stray*: it is
reported at its line and takes nothing away from the openers that follow.
-/

namespace ClarityCheck.Lint

/-- What a stretch of text does to the count of open forms: the closers that found none open, and
the forms left open at its end. -/
structure Balance where
  stray : Nat
  depth : Nat
  deriving DecidableEq, Repr

namespace Balance

/-- One character more. -/
def step (b : Balance) (c : Char) : Balance :=
  if c = '(' then { b with depth := b.depth + 1 }
  else if c = ')' then
    match b.depth with
    | 0 => { b with stray := b.stray + 1 }
    | d + 1 => { b with depth := d }
  else b

/-- The balance after a text that starts with `depth` forms open. -/
def ofText (depth : Nat) (s : List Char) : Balance := s.foldl step ⟨0, depth⟩

end Balance

/-- Goes through lines with `depth` forms open before the first, which has number `line`. The first
answer holds the line of each stray closer in order, the second the number of forms left open. -/
def scanBalance (line depth : Nat) : List (List Char) → List Nat × Nat
  | [] => ([], depth)
  | l :: ls =>
    let b := Balance.ofText depth l
    let after := scanBalance (line + 1) b.depth ls
    (List.replicate b.stray line ++ after.1, after.2)

end ClarityCheck.Lint

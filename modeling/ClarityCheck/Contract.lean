import ClarityCheck.Text.Blank

/-!
# Contracts and their names

A contract is a name and a text. Names come from anywhere and end up in paths and manifests, so
`Contract.safeName` reduces them to letters, digits and single hyphens first.

Main statement: `isSafe_safeName` (every name leaves between one and 64 letters, digits and
hyphens).
-/

namespace ClarityCheck

open ClarityCheck.Text

/-- Why a contract cannot be checked at all. -/
inductive Contract.InputError where
  /-- The name is blank. -/
  | missingName
  /-- The text is blank. -/
  | missingSource
  deriving DecidableEq, Repr

/-- The wording of an input error. -/
def Contract.InputError.message : Contract.InputError → String
  | .missingName => "contract name must be provided"
  | .missingSource => "source text must be provided"

namespace Contract

/-- The largest number of characters of a name. -/
def nameLimit : Nat := 64

/-- The name of a contract whose own name leaves nothing. -/
def fallbackName : List Char := "contract".toList

/-- The lower-case form of a character as far as letters from a to z occur in it. Of the characters
beyond ASCII only the Kelvin sign and the dotted capital I have such a letter in theirs. -/
def lowered (c : Char) : List Char :=
  if 'A' ≤ c ∧ c ≤ 'Z' then [Char.ofNat (c.toNat + 32)]
  else if c = '\u212A' then ['k']
  else if c = '\u0130' then ['i', '\u0307']
  else [c]

/-- A character that names may hold besides the hyphen. -/
def isNameChar (c : Char) : Bool := ('a' ≤ c && c ≤ 'z') || ('0' ≤ c && c ≤ '9')

/-- Replaces what names may not hold by hyphens and joins adjacent hyphens to one. `hyphen` tells
whether the character before, or the front of the name, makes a further hyphen superfluous. -/
def hyphenate (hyphen : Bool) : List Char → List Char
  | [] => []
  | c :: s =>
    if isNameChar c then c :: hyphenate false s
    else if hyphen then hyphenate true s
    else '-' :: hyphenate true s

/-- The text without hyphens at its end. -/
def dropHyphens (s : List Char) : List Char := (s.reverse.dropWhile (· = '-')).reverse

/-- The name that a contract is staged under. -/
def safeName (raw : List Char) : List Char :=
  match dropHyphens ((hyphenate true (raw.flatMap lowered)).take nameLimit) with
  | [] => fallbackName
  | name => name

/-- What a contract may be staged under. -/
structure IsSafe (name : List Char) : Prop where
  ne_nil : name ≠ []
  length_le : name.length ≤ nameLimit
  chars : ∀ c ∈ name, isNameChar c = true ∨ c = '-'

theorem mem_hyphenate {c : Char} {s : List Char} {hyphen : Bool} (h : c ∈ hyphenate hyphen s) :
    isNameChar c = true ∨ c = '-' := by
  induction s generalizing hyphen with
  | nil => simp [hyphenate] at h
  | cons d s ih =>
    unfold hyphenate at h
    split at h
    · next hd =>
      rcases List.mem_cons.mp h with rfl | h
      · exact Or.inl hd
      · exact ih h
    · split at h
      · exact ih h
      · rcases List.mem_cons.mp h with rfl | h
        · exact Or.inr rfl
        · exact ih h

theorem prefix_dropHyphens (s : List Char) : dropHyphens s <+: s := by
  rw [dropHyphens, ← List.reverse_suffix, List.reverse_reverse]
  exact List.dropWhile_suffix _

/-- Every name leaves a safe one. -/
theorem isSafe_safeName (raw : List Char) : IsSafe (safeName raw) := by
  unfold safeName
  split
  · have hall : fallbackName.all isNameChar = true := by decide
    exact ⟨by decide, by decide, fun c hc => Or.inl (List.all_eq_true.mp hall c hc)⟩
  · next hne =>
    have hp := prefix_dropHyphens ((hyphenate true (raw.flatMap lowered)).take nameLimit)
    refine ⟨hne, Nat.le_trans hp.length_le ?_, fun c hc => ?_⟩
    · rw [List.length_take]
      exact Nat.min_le_left ..
    · exact mem_hyphenate (List.mem_of_mem_take (hp.subset hc))

end Contract

/-- A contract to be checked: the name it is staged under, the name that was asked for, and its
text. -/
structure Contract where
  name : String
  requestedName : String
  body : String
  safe : Contract.IsSafe name.toList
  deriving DecidableEq, Repr

/-- A contract from what a caller gives. -/
def Contract.ofInput (name body : String) : Except Contract.InputError Contract :=
  if isBlankString name then .error .missingName
  else if isBlankString body then .error .missingSource
  else
    .ok
      { name := String.ofList (safeName name.toList)
        requestedName := name
        body
        safe := by
          rw [String.toList_ofList]
          exact isSafe_safeName name.toList }

end ClarityCheck

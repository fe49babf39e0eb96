import ClarityCheck.Files.Change
import ClarityCheck.Host.Raw

/-!
# Patterns for names

In a pattern a star stands for any characters, a question mark for one, and brackets for one of
those they hold. What is quoted stands for itself.
-/

namespace ClarityCheck.Host.Shell

/-- Characters, each with whether it is quoted. -/
abbrev Field := List (Char × Bool)

/-- What brackets may hold. -/
inductive Member where
  | range (first last : Char)
  | kind (name : String)
  deriving DecidableEq, Repr

/-- A part of a pattern. -/
inductive Atom where
  | one (c : Char)
  | any
  | many
  | among (negated : Bool) (members : List Member)
  deriving DecidableEq, Repr

namespace Member

/-- A character of a class. -/
def isOfKind (name : String) (c : Char) : Bool :=
  match name with
  | "alpha" => c.isAlpha
  | "digit" => c.isDigit
  | "alnum" => c.isAlphanum
  | "lower" => c.isLower
  | "upper" => c.isUpper
  | "space" => " \t\n\x0b\x0c\r".toList.contains c
  | "blank" => c == ' ' || c == '\t'
  | "punct" => 0x20 < c.toNat && c.toNat < 0x7F && !c.isAlphanum
  | "print" => 0x20 ≤ c.toNat && c.toNat < 0x7F
  | "graph" => 0x20 < c.toNat && c.toNat < 0x7F
  | "cntrl" => c.toNat < 0x20 || c.toNat == 0x7F
  | "xdigit" => c.isDigit || ('a' ≤ c && c ≤ 'f') || ('A' ≤ c && c ≤ 'F')
  | _ => false

/-- A character is one of those that a member stands for. -/
def holds (c : Char) : Member → Bool
  | .range a b => a ≤ c && c ≤ b
  | .kind name => isOfKind name c

end Member

namespace Field

/-- The characters of a field. -/
def text (f : Field) : Raw := f.map (·.1)

/-- A field of quoted characters. -/
def literal (s : Raw) : Field := s.map fun c => (c, true)

/-- A field of characters that are not quoted. -/
def plain (s : Raw) : Field := s.map fun c => (c, false)

/-- Some character of the field stands for others. -/
def isPattern (f : Field) : Bool := f.any fun c => !c.2 && "*?[".toList.contains c.1

/-! ## Reading patterns -/

/-- Reads what brackets hold, in at most `fuel` steps, and gives what follows them. -/
def members? : (fuel : Nat) → (first : Bool) → Field → Option (List Member × Field)
  | 0, _, _ => none
  | _, _, [] => none
  | fuel + 1, first, (c, quoted) :: f =>
    if c = ']' ∧ !quoted ∧ !first then some ([], f)
    else
      let name := (f.drop 1).takeWhile fun d => d.1 ≠ ':'
      if c = '[' ∧ !quoted ∧ f.head?.map (·.1) = some ':' ∧
          ((f.drop (name.length + 1)).map (·.1)).take 2 = [':', ']'] then
        (members? fuel false (f.drop (name.length + 3))).map fun r =>
          (.kind (String.ofList (text name)) :: r.1, r.2)
      else
        match f with
        | ('-', false) :: (d, q) :: g =>
          if d = ']' ∧ !q then (members? fuel false f).map fun r => (.range c c :: r.1, r.2)
          else (members? fuel false g).map fun r => (.range c d :: r.1, r.2)
        | _ => (members? fuel false f).map fun r => (.range c c :: r.1, r.2)

/-- Reads brackets behind the first of them. -/
def brackets? (f : Field) : Option (Atom × Field) :=
  let (negated, f) := match f with
    | ('!', false) :: g | ('^', false) :: g => (true, g)
    | g => (false, g)
  (members? (f.length + 1) true f).map fun r => (.among negated r.1, r.2)

/-- Reads a pattern in at most `fuel` steps. -/
def atomsFrom : (fuel : Nat) → Field → List Atom
  | 0, _ => []
  | _, [] => []
  | fuel + 1, (c, quoted) :: f =>
    if quoted then .one c :: atomsFrom fuel f
    else if c = '*' then .many :: atomsFrom fuel f
    else if c = '?' then .any :: atomsFrom fuel f
    else if c = '[' then
      match brackets? f with
      | some (a, rest) => a :: atomsFrom fuel rest
      | none => .one c :: atomsFrom fuel f
    else if c = '\\' then
      match f with
      | (d, _) :: g => .one d :: atomsFrom fuel g
      | [] => [.one c]
    else .one c :: atomsFrom fuel f

/-- The parts of a pattern. -/
def atoms (f : Field) : List Atom := atomsFrom f.length f

/-! ## Fitting -/

/-- The parts of a pattern fit a text. -/
def fitsAtoms : List Atom → Raw → Bool
  | [], s => s.isEmpty
  | .many :: p, [] => fitsAtoms p []
  | .many :: p, c :: s => fitsAtoms p (c :: s) || fitsAtoms (.many :: p) s
  | .any :: p, _ :: s => fitsAtoms p s
  | .one a :: p, c :: s => a == c && fitsAtoms p s
  | .among negated ms :: p, c :: s => (ms.any (·.holds c) != negated) && fitsAtoms p s
  | _ :: _, [] => false
termination_by p s => p.length + s.length

/-- A pattern fits a text. -/
def fits (f : Field) (s : Raw) : Bool := fitsAtoms (atoms f) s

/-- A text without the shortest or longest part at one of its ends that a pattern fits. -/
def trim (atEnd longest : Bool) (p : Field) (s : Raw) : Raw :=
  let p := atoms p
  let widths := List.range (s.length + 1)
  let widths := if longest then widths.reverse else widths
  if atEnd then
    match widths.find? fun n => fitsAtoms p (s.drop (s.length - n)) with
    | some n => s.take (s.length - n)
    | none => s
  else
    match widths.find? fun n => fitsAtoms p (s.take n) with
    | some n => s.drop n
    | none => s

/-! ## Names of files -/

/-- The pieces of a field between slashes. -/
def splitSlashes (f : Field) : List Field :=
  f.foldr (fun c ps =>
    if c.1 = '/' then [] :: ps
    else match ps with
      | [] => [[c]]
      | p :: ps => (c :: p) :: ps) [[]]

/-- The names in a directory that a pattern fits. Names that start with a dot have to be asked for.
-/
def childrenFitting (files : Files) (directory : Raw) (p : Field) : List Raw :=
  let at_ := if directory = [] then ['.'] else directory
  let asksForDot := p.head?.map (·.1) == some '.'
  match files.locate true (Raw.path at_) with
  | .error _ => []
  | .ok l =>
    let names := (files.childNames l).map Raw.ofBytes
    let names := if asksForDot then ['.'] :: ['.', '.'] :: names else names
    names.filter fun n => fits p n && (n.head? != some '.' || asksForDot)

/-- The paths that a pattern fits, below one that is fixed. -/
def pathsFitting (files : Files) (start : Raw) : List Field → List Raw
  | [] => [start]
  | [p] =>
    if p.isPattern then (childrenFitting files start p).map (start ++ ·)
    else
      let path := start ++ p.text
      if (files.stat (Raw.path path)).toBool then [path] else []
  | p :: q :: rest =>
    if p.isPattern then
      (childrenFitting files start p).flatMap fun n =>
        if files.isDirectory (Raw.path (start ++ n)) then
          pathsFitting files (start ++ n ++ ['/']) (q :: rest)
        else []
    else pathsFitting files (start ++ p.text ++ ['/']) (q :: rest)

/-- What a field of a command stands for: the paths that it fits, or itself when there are none. -/
def expand (files : Files) (f : Field) : List Raw :=
  if f.isPattern then
    match pathsFitting files [] (splitSlashes f) with
    | [] => [f.text]
    | paths => paths
  else [f.text]

end Field

end ClarityCheck.Host.Shell

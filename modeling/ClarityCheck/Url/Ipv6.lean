import ClarityCheck.Text.Cut

/-!
# IPv6 addresses

Eight pieces of 16 bits in hexadecimal with colons between them; two colons stand for one run of
zero pieces, and the last two pieces may be written like an IPv4 address.
-/

namespace ClarityCheck.Url.Ipv6

open ClarityCheck.Text

/-- The value of a piece of one to four hexadecimal digits. -/
def piece? (s : List Char) : Option Nat :=
  if s.isEmpty ∨ 4 < s.length then none
  else
    s.foldlM (fun n c =>
      if '0' ≤ c ∧ c ≤ '9' then some (n * 16 + (c.toNat - 0x30))
      else if 'a' ≤ c ∧ c ≤ 'f' then some (n * 16 + (c.toNat - 0x57))
      else if 'A' ≤ c ∧ c ≤ 'F' then some (n * 16 + (c.toNat - 0x37))
      else none) 0

/-- A number from 0 to 255 in decimal without superfluous zeros. -/
def octet? (s : List Char) : Option Nat :=
  if s.isEmpty ∨ 3 < s.length ∨ !s.all Char.isDigit ∨ (1 < s.length ∧ s.head? = some '0') then none
  else
    let n := s.foldl (fun n c => n * 10 + (c.toNat - 0x30)) 0
    if n < 256 then some n else none

/-- The two pieces that the end of an address writes with dots. -/
def dotted? (s : List Char) : Option (List Nat) :=
  match (splitOn '.' s).mapM octet? with
  | some [a, b, c, d] => some [a * 256 + b, c * 256 + d]
  | _ => none

/-- The pieces of a part of an address, whose end may be dotted if it ends the address. -/
def pieces? (final : Bool) (s : List Char) : Option (List Nat) :=
  if s.isEmpty then some []
  else
    let texts := splitOn ':' s
    match texts.getLast? with
    | none => none
    | some last =>
      if final ∧ last.contains '.' then
        match texts.dropLast.mapM piece?, dotted? last with
        | some ps, some qs => some (ps ++ qs)
        | _, _ => none
      else texts.mapM piece?

/-- The parts before and after two colons, if there are two. -/
def cutAtGap : List Char → List Char × Option (List Char)
  | ':' :: ':' :: s => ([], some s)
  | c :: s =>
    let r := cutAtGap s
    (c :: r.1, r.2)
  | [] => ([], none)

/-- The eight pieces of an address. -/
def ofChars? (s : List Char) : Option (List Nat) :=
  match cutAtGap s with
  | (whole, none) =>
    match pieces? true whole with
    | some ps => if ps.length = 8 then some ps else none
    | none => none
  | (front, some back) =>
    match pieces? false front, pieces? true back with
    | some ps, some qs =>
      if ps.length + qs.length < 8 then
        some (ps ++ List.replicate (8 - ps.length - qs.length) 0 ++ qs)
      else none
    | _, _ => none

/-- The length of the run of zeros at the front. -/
def zeros (ps : List Nat) : Nat := (ps.takeWhile (· = 0)).length

/-- The first of the longest runs of at least two zeros, as its start and length. -/
def longestGap (ps : List Nat) : Option (Nat × Nat) :=
  (List.range ps.length).foldl (fun best i =>
    let n := zeros (ps.drop i)
    match best with
    | none => if 2 ≤ n then some (i, n) else none
    | some (_, m) => if m < n then some (i, n) else best) none

/-- Pieces with colons between them. -/
def joined (ps : List Nat) : List Char := [':'].intercalate (ps.map (Nat.toDigits 16))

/-- An address in its shortest form. -/
def render (ps : List Nat) : List Char :=
  match longestGap ps with
  | none => joined ps
  | some (i, n) => joined (ps.take i) ++ [':', ':'] ++ joined (ps.drop (i + n))

end ClarityCheck.Url.Ipv6

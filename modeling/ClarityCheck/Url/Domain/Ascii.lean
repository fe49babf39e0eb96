import ClarityCheck.Text.Utf8
import ClarityCheck.Url.Domain.Composed
import ClarityCheck.Url.Punycode

/-!
# Domain names in ASCII

`toAscii?` brings a domain name into the form in which it is looked up: lower case, composed, and
with the labels that are not ASCII written in Punycode behind `xn--`. Names with characters that no
domain holds, or with a label that breaks the rules on marks, joiners or writing direction, have no
such form. Labels may be empty.
-/

namespace ClarityCheck.Url.Domain

open ClarityCheck.Text

/-- The mark of a label in Punycode. -/
def marker : List Char := "xn--".toList

/-- A character of ASCII that no domain name may hold. -/
def isForbidden (c : Char) : Bool :=
  c.toNat ≤ 0x20 || c.toNat = 0x7F || "%#/:<>?@[\\]^|".toList.contains c

/-- Characters that no domain changes. -/
def isStable (s : List Char) : Bool := s.all (fun c => mapChar? c == some [c])

/-! ## Joiners -/

/-- The joiner behind `before`, reversed, and in front of `after` stands where it may: behind a sign
that suppresses a vowel or, if it keeps letters apart, between letters that would join. -/
def joinerAllowed (apart : Bool) (before after : List Char) : Bool :=
  match before with
  | [] => false
  | c :: _ =>
    combiningClass c = 9 ||
      (apart
        && (match before.dropWhile (joining · = 't') with
          | d :: _ => joining d = 'l' || joining d = 'd'
          | [] => false)
        && (match after.dropWhile (joining · = 't') with
          | d :: _ => joining d = 'r' || joining d = 'd'
          | [] => false))

/-- All joiners of a label stand where they may. -/
def joinersFrom (before : List Char) : List Char → Bool
  | [] => true
  | c :: s =>
    (if c = '\u200C' then joinerAllowed true before s
      else if c = '\u200D' then joinerAllowed false before s
      else true)
      && joinersFrom (c :: before) s

/-- A label is well formed: it does not start with a mark, and its joiners stand where they may. -/
def isWellFormed (label : List Char) : Bool :=
  (match label with
    | [] => true
    | c :: _ => !isMark c)
    && joinersFrom [] label

/-! ## Writing direction -/

/-- A character written from right to left. -/
def isRightToLeft (c : Char) : Bool := ['r', 'a', 'n'].contains (direction c)

/-- The class of the last character of a label that is no mark. -/
def lastDirection (label : List Char) : Char :=
  match (label.reverse.map direction).dropWhile (· = 'm') with
  | [] => 'm'
  | d :: _ => d

/-- A label of a name with characters from right to left keeps to one direction. -/
def keepsDirection (label : List Char) : Bool :=
  match label.map direction with
  | [] => true
  | d :: ds =>
    if d = 'l' then
      ds.all (['l', 'e', 's', 'c', 't', 'o', 'b', 'm'].contains ·)
        && ['l', 'e'].contains (lastDirection label)
    else if d = 'r' ∨ d = 'a' then
      ds.all (['r', 'a', 'n', 'e', 's', 'c', 't', 'o', 'b', 'm'].contains ·)
        && ['r', 'a', 'e', 'n'].contains (lastDirection label)
        && !(ds.contains 'e' && ds.contains 'n')
    else false

/-! ## Names -/

/-- A label as its characters, out of Punycode if it is written so. -/
def readLabel? (label : List Char) : Option (List Char) :=
  match dropStart? marker label with
  | none => if isWellFormed label then some label else none
  | some rest =>
    match Punycode.decode? rest with
    | none => none
    | some decoded =>
      if decoded.all (fun c => c.toNat < 0x80) || !isStable decoded || composed decoded != decoded
          || !isWellFormed decoded then none
      else some decoded

/-- A label in ASCII. -/
def writeLabel (label : List Char) : List Char :=
  if label.all (fun c => c.toNat < 0x80) then label else marker ++ Punycode.encode label

/-- A domain name in ASCII. -/
def toAscii? (name : List Char) : Option (List Char) :=
  match name.mapM mapChar? with
  | none => none
  | some pieces =>
    let normal := composed pieces.flatten
    if normal.any (fun c => c.toNat < 0x80 && isForbidden c) then none
    else
      match (splitOn '.' normal).mapM readLabel? with
      | none => none
      | some decoded =>
        if decoded.any (·.any isRightToLeft) && !decoded.all keepsDirection then none
        else some (['.'].intercalate (decoded.map writeLabel))

end ClarityCheck.Url.Domain

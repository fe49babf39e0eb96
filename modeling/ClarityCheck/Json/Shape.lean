import ClarityCheck.Decimal.Shortest
import ClarityCheck.Json.Reader
import ClarityCheck.Text.Quoted

/-!
# Values of an expected shape

Readers that take a text for a value of a known shape: a truth value, a text, an optional text. What
has another shape is described in the fault. Values that nobody asks for are skipped with fewer
tests than a full reader makes: nesting is not limited, and neither the range of numbers nor the
pairing of surrogates counts.
-/

namespace ClarityCheck.Json

open ClarityCheck.Text

/-! ## Other shapes -/

/-- A number as a fault describes it. -/
def Number.description : Number → String
  | .integer n => "integer \x60" ++ toString n ++ "\x60"
  | .double negative x => "floating point \x60" ++ Decimal.text negative x ++ "\x60"

/-- A value as a fault describes it. -/
def description : Json → String
  | .null => "null"
  | .bool true => "boolean \x60true\x60"
  | .bool false => "boolean \x60false\x60"
  | .num n => n.description
  | .str s => "string " ++ quoted s
  | .arr _ => "sequence"
  | .obj _ => "map"

/-- The wording of a shape that is not the expected one. -/
def unexpected (found expected : String) : Reason :=
  .mismatch ("invalid type: " ++ found ++ ", expected " ++ expected)

/-- The fault of a value that has not the expected shape. Scalars are read to their end first and
may be broken themselves; arrays and objects are not entered. -/
def mismatch (expected : String) : List Char → Fault
  | [] => .before .eofInValue []
  | c :: s =>
    if c = '[' then .before (unexpected "sequence" expected) (c :: s)
    else if c = '\x7b' then .before (unexpected "map" expected) (c :: s)
    else
      match readScalar (c :: s) with
      | .error e => e
      | .ok (v, r) =>
        .before (unexpected v.description expected) r.1

/-- Reads a truth value. -/
def readBool (s : List Char) : Except Fault (Bool × { r : List Char // r.length ≤ s.length }) :=
  match skipSpace s, length_skipSpace_le s with
  | [], _ => .error (.before .eofInValue [])
  | c :: t, h =>
    let read (b : Bool) (word : List Char) :
        Except Fault (Bool × { r : List Char // r.length ≤ s.length }) :=
      match readWord word t with
      | .error e => .error e
      | .ok r => .ok (b, ⟨r.1, Nat.le_trans r.2 (Nat.le_of_succ_le h)⟩)
    if c = 't' then read true "rue".toList
    else if c = 'f' then read false "alse".toList
    else .error (mismatch "a boolean" (c :: t))

/-- Reads a text. -/
def readText (s : List Char) : Except Fault (String × { r : List Char // r.length ≤ s.length }) :=
  match skipSpace s, length_skipSpace_le s with
  | [], _ => .error (.before .eofInValue [])
  | c :: t, h =>
    if c = '"' then
      match readString t with
      | .error e => .error e
      | .ok (u, r) =>
        .ok (String.ofList u, ⟨r.1, Nat.le_trans (Nat.le_of_lt r.2) (Nat.le_of_succ_le h)⟩)
    else .error (mismatch "a string" (c :: t))

/-- Reads a text or `null`. -/
def readOptionalText (s : List Char) :
    Except Fault (Option String × { r : List Char // r.length ≤ s.length }) :=
  match skipSpace s, length_skipSpace_le s with
  | [], _ => .error (.before .eofInValue [])
  | c :: t, h =>
    if c = 'n' then
      match readWord "ull".toList t with
      | .error e => .error e
      | .ok r => .ok (none, ⟨r.1, Nat.le_trans r.2 (Nat.le_of_succ_le h)⟩)
    else
      match readText (c :: t) with
      | .error e => .error e
      | .ok (u, r) => .ok (some u, ⟨r.1, Nat.le_trans r.2 h⟩)

/-! ## Skipping -/

/-- A text that is at most as long as another one. -/
abbrev UpTo (n : Nat) := { r : List Char // r.length ≤ n }

/-- Skips the characters of a string behind its opening quotation mark. -/
def skipString {n : Nat} : (s : List Char) → s.length ≤ n → Except Fault (UpTo n)
  | [], _ => .error (.before .eofInString [])
  | [c], _ =>
    if c = '"' then .ok ⟨[], Nat.zero_le n⟩
    else if c = '\\' then .error (.before .eofInString [])
    else if c.toNat < 0x20 then .error (.before .controlCharacter [c])
    else .error (.before .eofInString [])
  | c :: d :: s, hs =>
    if c = '"' then .ok ⟨d :: s, Nat.le_of_succ_le hs⟩
    else if c = '\\' then
      if d = 'u' then
        match readHex4 s with
        | .error e => .error e
        | .ok (_, r) =>
          have := r.2
          skipString r.1
            (Nat.le_trans (Nat.le_of_lt r.2) (Nat.le_of_succ_le (Nat.le_of_succ_le hs)))
      else if (shortEscape? d).isSome then skipString s (Nat.le_of_succ_le (Nat.le_of_succ_le hs))
      else .error (.inView .invalidEscape (d :: s))
    else if c.toNat < 0x20 then .error (.before .controlCharacter (c :: d :: s))
    else skipString (d :: s) (Nat.le_of_succ_le hs)
termination_by s => s.length
decreasing_by all_goals simp only [List.length_cons]; omega

/-- Skips the exponent of a number behind its letter. -/
def skipExponent (s : List Char) : Except Fault (UpTo s.length) :=
  let unsigned := if s.head? == some '-' || s.head? == some '+' then s.tail else s
  match unsigned with
  | [] => .error (.before .invalidNumber [])
  | c :: t =>
    if c.isDigit then
      let r := t.dropWhile Char.isDigit
      if h : r.length ≤ s.length then .ok ⟨r, h⟩ else .error (.before .invalidNumber r)
    else .error (.inView .invalidNumber (c :: t))

/-- Skips the exponent of a number, if one follows. -/
def skipOptionalExponent {n : Nat} : (s : List Char) → s.length ≤ n → Except Fault (UpTo n)
  | [], hs => .ok ⟨[], hs⟩
  | c :: s, hs =>
    if c = 'e' ∨ c = 'E' then
      match skipExponent s with
      | .error e => .error e
      | .ok r => .ok ⟨r.1, by have := r.2; simp at hs; omega⟩
    else .ok ⟨c :: s, hs⟩

/-- Skips what may follow the integer digits of a number. -/
def skipFraction : (s : List Char) → Except Fault (UpTo s.length)
  | '.' :: s =>
    if s.head?.any Char.isDigit then
      skipOptionalExponent (s.dropWhile Char.isDigit)
        (Nat.le_succ_of_le (length_dropDigits_le s))
    else
      match s with
      | [] => .error (.before .invalidNumber [])
      | _ :: _ => .error (.inView .invalidNumber s)
  | s => skipOptionalExponent s (whole s).2

/-- Skips a number behind its sign. -/
def skipNumber : (s : List Char) → Except Fault (UpTo s.length)
  | [] => .error (.before .invalidNumber [])
  | c :: s =>
    let rest (t : List Char) (h : t.length ≤ s.length) : Except Fault (UpTo (c :: s).length) :=
      match skipFraction t with
      | .error e => .error e
      | .ok r => .ok ⟨r.1, by have := r.2; simp; omega⟩
    if c = '0' then
      if s.head?.any Char.isDigit then .error (.inView .invalidNumber s)
      else rest s (whole s).2
    else if c.isDigit then rest (s.dropWhile Char.isDigit) (length_dropDigits_le s)
    else .error (.inView .invalidNumber (c :: s))

/-- Skips a value that is no array and no object. -/
def skipScalar : (s : List Char) → Except Fault (UpTo (s.length - 1))
  | [] => .error (.before .eofInValue [])
  | c :: s =>
    let word (w : List Char) : Except Fault (UpTo ((c :: s).length - 1)) :=
      match readWord w s with
      | .error e => .error e
      | .ok r => .ok ⟨r.1, r.2⟩
    if c = 'n' then word "ull".toList
    else if c = 't' then word "rue".toList
    else if c = 'f' then word "alse".toList
    else if c = '"' then skipString s (whole s).2
    else if c = '-' then skipNumber s
    else if c.isDigit then
      match skipNumber (c :: s) with
      | .error e => .error e
      | .ok r =>
        if h : r.1.length ≤ s.length then .ok ⟨r.1, h⟩ else .error (.before .invalidNumber r.1)
    else .error (.inView .expectedValue (c :: s))

/-- What a skipped value stands in. -/
inductive Frame where
  | list
  | object
  deriving DecidableEq, Repr

/-- What comes next inside an array or object that is skipped. -/
inductive Place where
  /-- A value. -/
  | value
  /-- An element or a member. -/
  | item
  /-- A comma or the end behind an item, or the end or the first item behind a bracket. -/
  | next (comma : Bool)
  deriving DecidableEq, Repr

/-- Orders the places that may follow each other without a character between them. -/
def Place.rank : Place → Nat
  | .value => 0
  | .item => 1
  | .next _ => 2

/-- Skips the name of a member and its colon. -/
def skipName (s : List Char) : Except Fault (UpTo s.length) :=
  match skipSpace s, length_skipSpace_le s with
  | [], _ => .error (.before .eofInObject [])
  | c :: t, h =>
    if c = '"' then
      match skipString t (whole t).2 with
      | .error e => .error e
      | .ok r =>
        match readColon r.1 with
        | .error e => .error e
        | .ok (_, r') => .ok ⟨r'.1, by have := r.2; have := r'.2; simp at h; omega⟩
    else .error (.inView .keyNotString (c :: t))

/-- Skips to the end of a value; `frames` are the arrays and objects that it is inside of, the
innermost first. -/
def skipFrom {n : Nat} (place : Place) (frames : List Frame) (s : List Char) (hs : s.length ≤ n) :
    Except Fault (UpTo n) :=
  match place with
  | .value =>
    match h : skipSpace s with
    | [] => .error (.before .eofInValue [])
    | c :: t =>
      have ht := lt_of_skipSpace h
      if c = '[' then skipFrom (.next false) (.list :: frames) t (Nat.le_trans (Nat.le_of_lt ht) hs)
      else if c = '\x7b' then
        skipFrom (.next false) (.object :: frames) t (Nat.le_trans (Nat.le_of_lt ht) hs)
      else
        match skipScalar (c :: t) with
        | .error e => .error e
        | .ok r =>
          have : r.1.length ≤ t.length := r.2
          skipFrom (.next true) frames r.1 (Nat.le_trans this (Nat.le_trans (Nat.le_of_lt ht) hs))
  | .item =>
    match frames with
    | .object :: _ =>
      match skipName s with
      | .error e => .error e
      | .ok r =>
        have := r.2
        skipFrom .value frames r.1 (Nat.le_trans this hs)
    | _ => skipFrom .value frames s hs
  | .next comma =>
    match frames with
    | [] => .ok ⟨s, hs⟩
    | frame :: outer =>
      match h : skipSpace s with
      | [] => .error (.before (if frame = .list then .eofInList else .eofInObject) [])
      | c :: t =>
        have ht := lt_of_skipSpace h
        if c = ',' ∧ comma then skipFrom .item frames t (Nat.le_trans (Nat.le_of_lt ht) hs)
        else if (c = ']' ∧ frame = .list) ∨ (c = '\x7d' ∧ frame = .object) then
          skipFrom (.next true) outer t (Nat.le_trans (Nat.le_of_lt ht) hs)
        else if comma then
          .error (.inView (if frame = .list then .expectedListEnd else .expectedObjectEnd) (c :: t))
        else skipFrom .item frames (c :: t) (Nat.le_trans ht hs)
termination_by 3 * s.length + place.rank
decreasing_by all_goals simp only [Place.rank, List.length_cons]; omega

/-- Skips a value. -/
def skipValue (s : List Char) : Except Fault (UpTo s.length) :=
  skipFrom .value [] s (whole s).2

end ClarityCheck.Json

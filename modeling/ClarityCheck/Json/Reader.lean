import ClarityCheck.Decimal.Binary64
import ClarityCheck.Json.Basic
import ClarityCheck.Text.Utf8

/-!
# Reading JSON

A strict reader: the grammar of JSON with its four blanks, no lone surrogates, no number beyond the
range of a double and a limit on nesting. A fault keeps how much of the text was left when it was
noticed, from which `Fault.position` computes the line and the column in bytes.

Every reader returns the text behind what it has read together with the fact that something was
consumed, so the loops over elements and members end by the length of the text.
-/

namespace ClarityCheck.Json

open ClarityCheck.Text

/-! ## Faults -/

/-- Why a text is not what a reader expects. -/
inductive Reason where
  | eofInValue
  | eofInString
  | eofInList
  | eofInObject
  | expectedColon
  | expectedListEnd
  | expectedObjectEnd
  | expectedWord
  | expectedValue
  | invalidEscape
  | invalidNumber
  | numberOutOfRange
  | controlCharacter
  | keyNotString
  | loneSurrogate
  | unfinishedSurrogate
  | trailingComma
  | trailingCharacters
  | tooDeep
  /-- The text is JSON but not of the shape that is asked for. -/
  | mismatch (message : String)
  deriving DecidableEq, Repr

/-- The wording of a reason. -/
def Reason.message : Reason → String
  | .eofInValue => "EOF while parsing a value"
  | .eofInString => "EOF while parsing a string"
  | .eofInList => "EOF while parsing a list"
  | .eofInObject => "EOF while parsing an object"
  | .expectedColon => "expected \x60:\x60"
  | .expectedListEnd => "expected \x60,\x60 or \x60]\x60"
  | .expectedObjectEnd => "expected \x60,\x60 or \x60\x7d\x60"
  | .expectedWord => "expected ident"
  | .expectedValue => "expected value"
  | .invalidEscape => "invalid escape"
  | .invalidNumber => "invalid number"
  | .numberOutOfRange => "number out of range"
  | .controlCharacter => "control character (\\u0000-\\u001F) found while parsing a string"
  | .keyNotString => "key must be a string"
  | .loneSurrogate => "lone leading surrogate in hex escape"
  | .unfinishedSurrogate => "unexpected end of hex escape"
  | .trailingComma => "trailing comma"
  | .trailingCharacters => "trailing characters"
  | .tooDeep => "recursion limit exceeded"
  | .mismatch message => message

/-- A reason and the number of bytes that were left of the text when it was noticed. -/
structure Fault where
  reason : Reason
  left : Nat
  deriving DecidableEq, Repr

namespace Fault

/-- A fault noticed in front of the rest of the text. -/
def before (reason : Reason) (rest : List Char) : Fault := ⟨reason, Utf8.size rest⟩

/-- A fault noticed with one more byte of the rest in view. -/
def inView (reason : Reason) (rest : List Char) : Fault := ⟨reason, Utf8.size rest - 1⟩

/-- The line and column that lie a number of bytes further on. Lines count from 1, columns count
bytes from 0. -/
def advance : Nat → Nat → Nat → List Char → Nat × Nat
  | line, column, _, [] => (line, column)
  | line, column, bytes, c :: s =>
    if bytes < c.utf8Size then (line, column + bytes)
    else if c = '\n' then advance (line + 1) 0 (bytes - 1) s
    else advance line (column + c.utf8Size) (bytes - c.utf8Size) s

/-- The line and the column of a fault in a text. -/
def position (text : List Char) (fault : Fault) : Nat × Nat :=
  advance 1 0 (Utf8.size text - fault.left) text

/-- The wording of a fault in a text. -/
def message (text : List Char) (fault : Fault) : String :=
  let at_ := fault.position text
  fault.reason.message ++ " at line " ++ toString at_.1 ++ " column " ++ toString at_.2

end Fault

/-! ## Pieces -/

/-- What is left of a text after something has been read from it. -/
abbrev Rest (s : List Char) := { r : List Char // r.length < s.length }

/-- A reader: it takes something from the front of a text, or finds a fault. -/
abbrev Reader (α : Type) := (s : List Char) → Except Fault (α × Rest s)

/-- The four blanks of JSON. -/
def isSpace (c : Char) : Bool := c == ' ' || c == '\n' || c == '\t' || c == '\r'

/-- The text without the blanks at its front. -/
def skipSpace (s : List Char) : List Char := s.dropWhile isSpace

theorem length_skipSpace_le (s : List Char) : (skipSpace s).length ≤ s.length :=
  (List.dropWhile_suffix _).length_le

theorem length_dropDigits_le (s : List Char) : (s.dropWhile Char.isDigit).length ≤ s.length :=
  (List.dropWhile_suffix _).length_le

theorem lt_of_skipSpace {s r : List Char} {c : Char} (h : skipSpace s = c :: r) :
    r.length < s.length := by
  have := length_skipSpace_le s
  rw [h, List.length_cons] at this
  omega

/-- The rest of a text, known to be shorter than a longer one. -/
def Rest.widen {s t : List Char} (h : s.length ≤ t.length) (r : Rest s) : Rest t :=
  ⟨r.1, Nat.lt_of_lt_of_le r.2 h⟩

/-- The whole of a text, as what is left of it when nothing has been read. -/
def whole (s : List Char) : { r : List Char // r.length ≤ s.length } := ⟨s, Nat.le_refl _⟩

/-- Reads the remaining letters of a word. -/
def readWord : List Char → (s : List Char) → Except Fault { r : List Char // r.length ≤ s.length }
  | [], s => .ok (whole s)
  | _ :: _, [] => .error (.before .eofInValue [])
  | c :: word, d :: s =>
    if c = d then
      match readWord word s with
      | .ok r => .ok ⟨r.1, Nat.le_succ_of_le r.2⟩
      | .error e => .error e
    else .error (.inView .expectedWord (d :: s))

/-! ## Strings -/

/-- The value of a hexadecimal digit. -/
def hexValue? (c : Char) : Option Nat :=
  if '0' ≤ c ∧ c ≤ '9' then some (c.toNat - 0x30)
  else if 'a' ≤ c ∧ c ≤ 'f' then some (c.toNat - 0x57)
  else if 'A' ≤ c ∧ c ≤ 'F' then some (c.toNat - 0x37)
  else none

/-- Reads four hexadecimal digits. -/
def readHex4 : Reader Nat
  | s@(a :: b :: c :: d :: r) =>
    match hexValue? a, hexValue? b, hexValue? c, hexValue? d with
    | some a', some b', some c', some d' =>
      .ok (((a' * 16 + b') * 16 + c') * 16 + d', ⟨r, by simp; omega⟩)
    | _, _, _, _ => .error ⟨.invalidEscape, Utf8.size s - 4⟩
  | s => if Utf8.size s < 4 then .error (.before .eofInString [])
    else .error ⟨.invalidEscape, Utf8.size s - 4⟩

/-- The character that a letter stands for behind a backslash. -/
def shortEscape? (c : Char) : Option Char :=
  if c = '"' then some '"'
  else if c = '\\' then some '\\'
  else if c = '/' then some '/'
  else if c = 'b' then some '\x08'
  else if c = 'f' then some '\x0c'
  else if c = 'n' then some '\n'
  else if c = 'r' then some '\r'
  else if c = 't' then some '\t'
  else none

/-- The character that two surrogates write together. -/
def joinSurrogates (high low : Nat) : Char :=
  Char.ofNat ((high - 0xD800) * 1024 + (low - 0xDC00) + 0x10000)

/-- Reads the escape of a low surrogate, which has to follow a high one. -/
def readLowSurrogate : Reader Nat
  | [] => .error (.before .eofInString [])
  | '\\' :: [] => .error (.before .eofInString [])
  | '\\' :: 'u' :: s =>
    match readHex4 s with
    | .error e => .error e
    | .ok (n, r) =>
      if n < 0xDC00 ∨ 0xDFFF < n then .error (.before .loneSurrogate r.1)
      else .ok (n, r.widen (by simp; omega))
  | '\\' :: s => .error (.inView .unfinishedSurrogate s)
  | s => .error (.inView .unfinishedSurrogate s)

/-- Reads what follows the letter `u` of an escape. -/
def readCodeUnits : Reader Char := fun s =>
  match readHex4 s with
  | .error e => .error e
  | .ok (n, r) =>
    if 0xDC00 ≤ n ∧ n ≤ 0xDFFF then .error (.before .loneSurrogate r.1)
    else if n < 0xD800 ∨ 0xDBFF < n then .ok (Char.ofNat n, r)
    else
      match readLowSurrogate r.1 with
      | .error e => .error e
      | .ok (m, r') => .ok (joinSurrogates n m, r'.widen (Nat.le_of_lt r.2))

/-- Reads what follows a backslash. -/
def readEscape : Reader Char
  | [] => .error (.before .eofInString [])
  | 'u' :: s =>
    match readCodeUnits s with
    | .error e => .error e
    | .ok (c, r) => .ok (c, r.widen (by simp))
  | c :: s =>
    match shortEscape? c with
    | some d => .ok (d, ⟨s, by simp⟩)
    | none => .error (.inView .invalidEscape (c :: s))

/-- Reads the characters of a string up to its closing quotation mark; `read` holds those already
read, the last one first, and `n` bounds the length of the text. -/
def readCharsOnto {n : Nat} (read : List Char) :
    (s : List Char) → s.length ≤ n → Except Fault (List Char × { r : List Char // r.length < n })
  | [], _ => .error (.before .eofInString [])
  | c :: s, hs =>
    if c = '"' then .ok (read.reverse, ⟨s, hs⟩)
    else if c = '\\' then
      match readEscape s with
      | .error e => .error e
      | .ok (d, r) =>
        have := r.2
        readCharsOnto (d :: read) r.1 (by simp at hs; omega)
    else if c.toNat < 0x20 then .error (.inView .controlCharacter (c :: s))
    else readCharsOnto (c :: read) s (by simp at hs; omega)
termination_by s => s.length

/-- Reads a string behind its opening quotation mark. -/
def readString : Reader (List Char) := fun s => readCharsOnto [] s (Nat.le_refl _)

/-! ## Numbers -/

/-- The value of decimal digits, read onto a value as long as it stays below `2 ^ 64`, and the
number of digits that are left over. -/
def digitsOnto (n : Nat) : List Char → Nat × Nat
  | [] => (n, 0)
  | c :: s =>
    let n' := n * 10 + (c.toNat - 0x30)
    if n' < 0x1_0000_0000_0000_0000 then digitsOnto n' s else (n, s.length + 1)

/-- The largest exponent that is read as written. -/
def exponentLimit : Nat := 2147483647

/-- Reads the digits of an exponent onto a value. The answer is `none` when the exponent passes the
limit, with the text behind the digit that made it do so. -/
def readExponentDigits (n : Nat) : List Char → Option Nat × List Char
  | [] => (some n, [])
  | c :: s =>
    if c.isDigit then
      let n' := n * 10 + (c.toNat - 0x30)
      if exponentLimit < n' then (none, s) else readExponentDigits n' s
    else (some n, c :: s)

/-- An integer below `2 ^ 64` with a sign as a value. What does not fit into 64 bits with its sign
is a double. -/
def Number.ofInteger (negative : Bool) (n : Nat) : Number :=
  if negative then
    if n = 0 ∨ 0x8000_0000_0000_0000 < n then .double true (.ofRatio n 1) else .integer (-(n : Int))
  else .integer n

/-- Completes a number with a fraction or an exponent, unless it is too large for a double. -/
def finishDouble (negative : Bool) (significand : Nat) (exponent : Int) (rest : List Char) :
    Except Fault Number :=
  match Decimal.Binary64.ofRounded? significand exponent with
  | some x => .ok (.double negative x)
  | none => .error (.before .numberOutOfRange rest)

/-- Completes a number of integer digits, of which `over` are left over. -/
def finishInteger (negative : Bool) (significand excess : Nat) (rest : List Char) :
    Except Fault Number :=
  if excess = 0 then .ok (Number.ofInteger negative significand)
  else finishDouble negative significand excess rest

/-- Reads the exponent of a number behind its letter; `scale` is the exponent so far. -/
def readExponent (negative : Bool) (significand : Nat) (scale : Int) (s : List Char) :
    Except Fault (Number × { r : List Char // r.length ≤ s.length }) :=
  let down := s.head? == some '-'
  let unsigned := if s.head? == some '-' || s.head? == some '+' then s.tail else s
  match unsigned with
  | [] => .error (.before .eofInValue [])
  | c :: _ =>
    if c.isDigit then
      let digits := readExponentDigits 0 unsigned
      match digits.1 with
      | none =>
        if significand = 0 ∨ down then
          let r := digits.2.dropWhile Char.isDigit
          if h : r.length ≤ s.length then .ok (.double negative (.ofRatio 0 1), ⟨r, h⟩)
          else .error (.before .invalidNumber r)
        else .error (.before .numberOutOfRange digits.2)
      | some e =>
        match finishDouble negative significand (if down then scale - e else scale + e)
            digits.2 with
        | .error f => .error f
        | .ok n =>
          if h : digits.2.length ≤ s.length then .ok (n, ⟨digits.2, h⟩)
          else .error (.before .invalidNumber digits.2)
    else .error (.inView .invalidNumber unsigned)

/-- Reads what may follow the integer digits of a number, of which `over` are left over. Digits of
the fraction that make the significand too long do not count. -/
def readFraction (negative : Bool) (significand excess : Nat) (s : List Char) :
    Except Fault (Number × { r : List Char // r.length ≤ s.length }) :=
  match s with
  | '.' :: t =>
    let digits := t.takeWhile Char.isDigit
    let after := t.dropWhile Char.isDigit
    have hle : after.length ≤ t.length := length_dropDigits_le t
    if digits.isEmpty then
      match after with
      | [] => .error (.before .eofInValue [])
      | _ :: _ => .error (.inView .invalidNumber after)
    else
      let read := digitsOnto significand digits
      let significand := read.1
      let scale : Int := (excess : Int) - ((digits.length : Int) - read.2)
      match h : after with
      | c :: u =>
        if c = 'e' ∨ c = 'E' then
          match readExponent negative significand scale u with
          | .error f => .error f
          | .ok (n, r) => .ok (n, ⟨r.1, by have := r.2; simp_all; omega⟩)
        else
          match finishDouble negative significand scale (c :: u) with
          | .error f => .error f
          | .ok n => .ok (n, ⟨c :: u, by simp_all; omega⟩)
      | [] =>
        match finishDouble negative significand scale [] with
        | .error f => .error f
        | .ok n => .ok (n, ⟨[], by simp⟩)
  | c :: t =>
    if c = 'e' ∨ c = 'E' then
      match readExponent negative significand excess t with
      | .error f => .error f
      | .ok (n, r) => .ok (n, ⟨r.1, by have := r.2; simp; omega⟩)
    else
      match finishInteger negative significand excess (c :: t) with
      | .error f => .error f
      | .ok n => .ok (n, ⟨c :: t, by simp⟩)
  | [] =>
    match finishInteger negative significand excess [] with
    | .error f => .error f
    | .ok n => .ok (n, ⟨[], by simp⟩)

/-- Reads a number behind its sign. -/
def readUnsigned (negative : Bool) : Reader Number
  | [] => .error (.before .eofInValue [])
  | '0' :: s =>
    if s.head?.any Char.isDigit then .error (.inView .invalidNumber s)
    else
      match readFraction negative 0 0 s with
      | .error f => .error f
      | .ok (n, r) => .ok (n, ⟨r.1, by have := r.2; simp; omega⟩)
  | c :: s =>
    if c.isDigit then
      let digits := s.takeWhile Char.isDigit
      let after := s.dropWhile Char.isDigit
      have hle : after.length ≤ s.length := length_dropDigits_le s
      let read := digitsOnto 0 (c :: digits)
      match readFraction negative read.1 read.2 after with
      | .error f => .error f
      | .ok (n, r) => .ok (n, ⟨r.1, by have := r.2; simp; omega⟩)
    else .error (.inView .invalidNumber (c :: s))

/-! ## Values -/

/-- The number of arrays and objects that may stand inside one another. -/
def nestingLimit : Nat := 127

/-- Reads the elements of an array behind its first; `read` holds those already read, the last one
first, and `n` bounds the length of the text. -/
def readMoreElements {n : Nat} (element : Reader Json) (read : List Json) (s : List Char)
    (hs : s.length ≤ n) : Except Fault (List Json × { r : List Char // r.length < n }) :=
  match h : skipSpace s with
  | [] => .error (.before .eofInList [])
  | c :: t =>
    have ht := lt_of_skipSpace h
    if c = ']' then .ok (read.reverse, ⟨t, by omega⟩)
    else if c = ',' then
      match skipSpace t with
      | [] => .error (.before .eofInValue [])
      | d :: u =>
        if d = ']' then .error (.inView .trailingComma (d :: u))
        else
          match element t with
          | .error e => .error e
          | .ok (v, r) =>
            have := r.2
            readMoreElements element (v :: read) r.1 (by omega)
    else .error (.inView .expectedListEnd (c :: t))
termination_by s.length

/-- Reads the elements of an array behind its bracket. -/
def readElements (element : Reader Json) : Reader (List Json) := fun s =>
  match h : skipSpace s with
  | [] => .error (.before .eofInList [])
  | c :: t =>
    if c = ']' then .ok ([], ⟨t, lt_of_skipSpace h⟩)
    else
      match element s with
      | .error e => .error e
      | .ok (v, r) =>
        match readMoreElements element [v] r.1 (Nat.le_refl _) with
        | .error e => .error e
        | .ok (vs, r') => .ok (vs, ⟨r'.1, Nat.lt_trans r'.2 r.2⟩)

/-- Reads the colon between a name and its value. -/
def readColon : Reader Unit := fun s =>
  match h : skipSpace s with
  | [] => .error (.before .eofInObject [])
  | c :: t =>
    if c = ':' then .ok ((), ⟨t, lt_of_skipSpace h⟩) else .error (.inView .expectedColon (c :: t))

/-- Reads a member of an object behind the quotation mark of its name. -/
def readMember (element : Reader Json) : Reader (String × Json) := fun s =>
  match readString s with
  | .error e => .error e
  | .ok (name, r) =>
    match readColon r.1 with
    | .error e => .error e
    | .ok ((), r') =>
      match element r'.1 with
      | .error e => .error e
      | .ok (v, r'') =>
        .ok ((String.ofList name, v), ⟨r''.1, by have := r.2; have := r'.2; have := r''.2; omega⟩)

/-- Reads the members of an object behind its first; `read` holds those already read, the last one
first, and `n` bounds the length of the text. -/
def readMoreMembers {n : Nat} (element : Reader Json) (read : List (String × Json)) (s : List Char)
    (hs : s.length ≤ n) : Except Fault (List (String × Json) × { r : List Char // r.length < n }) :=
  match h : skipSpace s with
  | [] => .error (.before .eofInObject [])
  | c :: t =>
    have ht := lt_of_skipSpace h
    if c = '\x7d' then .ok (read.reverse, ⟨t, by omega⟩)
    else if c = ',' then
      match h' : skipSpace t with
      | [] => .error (.before .eofInValue [])
      | d :: u =>
        have hu := lt_of_skipSpace h'
        if d = '"' then
          match readMember element u with
          | .error e => .error e
          | .ok (m, r) =>
            have := r.2
            readMoreMembers element (m :: read) r.1 (by omega)
        else if d = '\x7d' then .error (.inView .trailingComma (d :: u))
        else .error (.inView .keyNotString (d :: u))
    else .error (.inView .expectedObjectEnd (c :: t))
termination_by s.length

/-- Reads the members of an object behind its brace. -/
def readMembers (element : Reader Json) : Reader (List (String × Json)) := fun s =>
  match h : skipSpace s with
  | [] => .error (.before .eofInObject [])
  | c :: t =>
    have ht := lt_of_skipSpace h
    if c = '\x7d' then .ok ([], ⟨t, ht⟩)
    else if c = '"' then
      match readMember element t with
      | .error e => .error e
      | .ok (m, r) =>
        match readMoreMembers element [m] r.1 (Nat.le_refl _) with
        | .error e => .error e
        | .ok (ms, r') => .ok (ms, ⟨r'.1, by have := r.2; have := r'.2; omega⟩)
    else .error (.inView .keyNotString (c :: t))

/-- Reads one of the words that are values. -/
def readWordValue (word : List Char) (v : Json) : Reader Json
  | [] => .error (.before .eofInValue [])
  | _ :: s =>
    match readWord word s with
    | .error e => .error e
    | .ok r => .ok (v, ⟨r.1, by have := r.2; simp; omega⟩)

/-- Reads a value that is no array and no object, from its first character. -/
def readScalar : Reader Json
  | [] => .error (.before .eofInValue [])
  | c :: s =>
    if c = 'n' then readWordValue "ull".toList .null (c :: s)
    else if c = 't' then readWordValue "rue".toList (.bool true) (c :: s)
    else if c = 'f' then readWordValue "alse".toList (.bool false) (c :: s)
    else if c = '"' then
      match readString s with
      | .error e => .error e
      | .ok (t, r) => .ok (.str (String.ofList t), r.widen (by simp))
    else if c = '-' then
      match readUnsigned true s with
      | .error e => .error e
      | .ok (n, r) => .ok (.num n, r.widen (by simp))
    else if c.isDigit then
      match readUnsigned false (c :: s) with
      | .error e => .error e
      | .ok (n, r) => .ok (.num n, r)
    else .error (.inView .expectedValue (c :: s))

/-- Reads an array behind its bracket. -/
def readArray (element : Reader Json) : Reader Json := fun s =>
  match readElements element s with
  | .error e => .error e
  | .ok (vs, r) => .ok (.arr vs, r)

/-- Reads an object behind its brace. -/
def readObject (element : Reader Json) : Reader Json := fun s =>
  match readMembers element s with
  | .error e => .error e
  | .ok (ms, r) => .ok (.obj ms, r)

/-- Reads a value in which at most `depth` arrays and objects stand inside one another. -/
def readValue (depth : Nat) : Reader Json := fun s =>
  match h : skipSpace s with
  | [] => .error (.before .eofInValue [])
  | c :: t =>
    have ht := lt_of_skipSpace h
    if c = '[' ∨ c = '\x7b' then
      match depth with
      | 0 => .error (.inView .tooDeep (c :: t))
      | d + 1 =>
        match if c = '[' then readArray (readValue d) t else readObject (readValue d) t with
        | .error e => .error e
        | .ok (v, r) => .ok (v, r.widen (Nat.le_of_lt ht))
    else
      match readScalar (c :: t) with
      | .error e => .error e
      | .ok (v, r) => .ok (v, r.widen (show (c :: t).length ≤ s.length from ht))

/-- Nothing but blanks may follow. -/
def readEnd (s : List Char) : Except Fault Unit :=
  match skipSpace s with
  | [] => .ok ()
  | t@(_ :: _) => .error (.inView .trailingCharacters t)

/-- Reads a whole text as one value. -/
def ofChars (s : List Char) : Except Fault Json :=
  match readValue nestingLimit s with
  | .error e => .error e
  | .ok (v, r) =>
    match readEnd r.1 with
    | .error e => .error e
    | .ok () => .ok v

/-- Reads a whole text as one value, if it is one. -/
def ofString? (s : String) : Option Json := (ofChars s.toList).toOption

end ClarityCheck.Json

import ClarityCheck.Json.Shape
import ClarityCheck.Validation.Response

/-!
# Reading responses

A response is read from JSON text as an object with its members in any order, or as an array of its
members in their order. Members with other names are skipped; `errors` may be missing or `null`. A
fault that concerns the response as a whole is placed where the reader has left it.
-/

namespace ClarityCheck.Validation.Response

open ClarityCheck.Json ClarityCheck.Text

/-- What has been read of a response. -/
structure Draft where
  success : Option Bool := none
  output : Option String := none
  errors : Option (Option String) := none

/-- The shape that a response is read as. -/
def shape : String := "struct ValidationResponse"

/-- The text behind blanks and, if it is the next character, the end of an object or array. -/
def pastEnd (close : Char) (s : List Char) : List Char :=
  match skipSpace s with
  | [] => []
  | c :: t => if c = close then t else c :: t

/-- The fault of a member that occurs twice, noticed behind its second name. -/
def duplicate (name : String) (rest : List Char) : Fault :=
  .before (.mismatch ("duplicate field \x60" ++ name ++ "\x60")) (pastEnd '\x7d' rest)

/-- The fault of a missing member, noticed behind the end of the object. -/
def missing (name : String) (rest : List Char) : Fault :=
  .before (.mismatch ("missing field \x60" ++ name ++ "\x60")) rest

/-- The response of a complete draft. -/
def Draft.finish (d : Draft) (rest : List Char) : Except Fault Response :=
  match d.success, d.output with
  | none, _ => .error (missing "success" rest)
  | some _, none => .error (missing "output" rest)
  | some success, some output => .ok ⟨success, output, d.errors.getD none⟩

/-- Reads a member behind the quotation mark of its name into a draft. -/
def readMember (d : Draft) (s : List Char) :
    Except Fault (Draft × { r : List Char // r.length < s.length }) :=
  match readString s with
  | .error e => .error e
  | .ok (name, r) =>
    if name = "success".toList ∧ d.success.isSome then .error (duplicate "success" r.1)
    else if name = "output".toList ∧ d.output.isSome then .error (duplicate "output" r.1)
    else if name = "errors".toList ∧ d.errors.isSome then .error (duplicate "errors" r.1)
    else
      match readColon r.1 with
      | .error e => .error e
      | .ok ((), r') =>
        have hr : r'.1.length < s.length := Nat.lt_trans r'.2 r.2
        if name = "success".toList then
          match readBool r'.1 with
          | .error e => .error e
          | .ok (v, r'') => .ok ({ d with success := some v }, ⟨r''.1, Nat.lt_of_le_of_lt r''.2 hr⟩)
        else if name = "output".toList then
          match readText r'.1 with
          | .error e => .error e
          | .ok (v, r'') => .ok ({ d with output := some v }, ⟨r''.1, Nat.lt_of_le_of_lt r''.2 hr⟩)
        else if name = "errors".toList then
          match readOptionalText r'.1 with
          | .error e => .error e
          | .ok (v, r'') => .ok ({ d with errors := some v }, ⟨r''.1, Nat.lt_of_le_of_lt r''.2 hr⟩)
        else
          match skipValue r'.1 with
          | .error e => .error e
          | .ok r'' => .ok (d, ⟨r''.1, Nat.lt_of_le_of_lt r''.2 hr⟩)

/-- Reads the members of an object; `first` tells whether none has been read. The answer is the
response and the text behind the object. -/
def readMembers (first : Bool) (d : Draft) (s : List Char) : Except Fault (Response × List Char) :=
  match h : skipSpace s with
  | [] => .error (.before .eofInObject [])
  | c :: t =>
    have := lt_of_skipSpace h
    if c = '\x7d' then
      match d.finish t with
      | .error e => .error e
      | .ok r => .ok (r, t)
    else if first then
      if c = '"' then
        match readMember d t with
        | .error e => .error e
        | .ok (d, r) =>
          have := r.2
          readMembers false d r.1
      else .error (.inView .keyNotString (c :: t))
    else if c = ',' then
      match h' : skipSpace t with
      | [] => .error (.before .eofInValue [])
      | c' :: u =>
        have := lt_of_skipSpace h'
        if c' = '"' then
          match readMember d u with
          | .error e => .error e
          | .ok (d, r) =>
            have := r.2
            readMembers false d r.1
        else if c' = '\x7d' then .error (.inView .trailingComma (c' :: u))
        else .error (.inView .keyNotString (c' :: u))
    else .error (.inView .expectedObjectEnd (c :: t))
termination_by s.length

/-- Moves to the next element of an array; `none` when the array has ended, with the text in front
of its bracket. -/
def nextElement (first : Bool) (s : List Char) : Except Fault (Option (List Char) × List Char) :=
  match skipSpace s with
  | [] => .error (.before .eofInList [])
  | c :: t =>
    if c = ']' then .ok (none, c :: t)
    else if first then .ok (some (c :: t), [])
    else if c = ',' then
      match skipSpace t with
      | [] => .error (.before .eofInValue [])
      | d :: u => if d = ']' then .error (.inView .trailingComma (d :: u)) else .ok (some t, [])
    else .error (.inView .expectedListEnd (c :: t))

/-- The fault of an array that ends too early. -/
def tooShort (length : Nat) (rest : List Char) : Fault :=
  .before (.mismatch ("invalid length " ++ toString length ++ ", expected " ++ shape
    ++ " with 3 elements")) (pastEnd ']' rest)

/-- The end of an array behind its last element. -/
def readArrayEnd (s : List Char) : Except Fault (List Char) :=
  match skipSpace s with
  | [] => .error (.before .eofInList [])
  | c :: t =>
    if c = ']' then .ok t
    else if c = ',' then
      match skipSpace t with
      | [] => .error (.before .trailingCharacters [])
      | d :: u =>
        if d = ']' then .error (.inView .trailingComma (d :: u))
        else .error (.inView .trailingCharacters (d :: u))
    else .error (.inView .trailingCharacters (c :: t))

/-- Reads the elements of an array behind its bracket. -/
def readElements (s : List Char) : Except Fault (Response × List Char) :=
  match nextElement true s with
  | .error e => .error e
  | .ok (none, r) => .error (tooShort 0 r)
  | .ok (some s, _) =>
    match readBool s with
    | .error e => .error e
    | .ok (success, s) =>
      match nextElement false s.1 with
      | .error e => .error e
      | .ok (none, r) => .error (tooShort 1 r)
      | .ok (some s, _) =>
        match readText s with
        | .error e => .error e
        | .ok (output, s) =>
          match nextElement false s.1 with
          | .error e => .error e
          | .ok (none, r) => .ok (⟨success, output, none⟩, pastEnd ']' r)
          | .ok (some s, _) =>
            match readOptionalText s with
            | .error e => .error e
            | .ok (errors, s) =>
              match readArrayEnd s.1 with
              | .error e => .error e
              | .ok r => .ok (⟨success, output, errors⟩, r)

/-- Reads a whole text as a response. -/
def ofChars (s : List Char) : Except Fault Response :=
  match skipSpace s with
  | [] => .error (.before .eofInValue [])
  | c :: t =>
    let read :=
      if c = '[' then readElements t
      else if c = '\x7b' then readMembers true {} t
      else .error (mismatch shape (c :: t))
    match read with
    | .error e => .error e
    | .ok (r, rest) =>
      match readEnd rest with
      | .error e => .error e
      | .ok () => .ok r

/-- Reads a whole text as a response; a fault comes with its wording. -/
def ofString (text : String) : Except String Response :=
  (ofChars text.toList).mapError (·.message text.toList)

end ClarityCheck.Validation.Response

import ClarityCheck.Toml.Name

/-!
# Dates and times of TOML

A date, a time, or both, with an offset from universal time behind both. A text is cut into pieces
first; then it is asked for the pieces in order, and for the sizes of numbers once all of a date or
of a time is there.
-/

namespace ClarityCheck.Toml.Moment

/-- The pieces of a date. -/
inductive Piece where
  | digits (ds : List Char)
  | dash
  | colon
  | dot
  | plus
  | space
  /-- The letter between a date and a time. -/
  | between
  /-- The letter for universal time. -/
  | universal
  /-- Anything else, up to the end of the text. -/
  | other
  deriving DecidableEq, Repr

namespace Piece

/-- The piece that a character other than a digit is. -/
def ofChar (c : Char) : Piece :=
  match c with
  | '-' => .dash
  | ':' => .colon
  | '.' => .dot
  | '+' => .plus
  | ' ' => .space
  | 'T' | 't' => .between
  | 'Z' | 'z' => .universal
  | _ => .other

/-- Puts a digit in front of pieces. -/
def consDigit (c : Char) : List Piece → List Piece
  | .digits ds :: ps => .digits (c :: ds) :: ps
  | ps => .digits [c] :: ps

/-- The pieces of a text. -/
def ofText : List Char → List Piece
  | [] => []
  | c :: s =>
    if c.isDigit then consDigit c (ofText s)
    else if ofChar c = .other then [.other]
    else ofChar c :: ofText s

end Piece

/-- Why a text is no date: what is wrong, and what should be there instead. -/
structure Refusal where
  what : String
  expected : Option String
  deriving DecidableEq, Repr

/-- The wording of a refusal. -/
def Refusal.message (r : Refusal) : String :=
  "invalid " ++ r.what ++ (r.expected.map (", expected " ++ ·)).getD ""

/-- Digits, which have to come next. -/
def digits (what expected : String) : List Piece → Except Refusal (List Char × List Piece)
  | .digits ds :: ps => .ok (ds, ps)
  | _ => .error ⟨what, some expected⟩

/-- The pieces behind one that has to come next. -/
def mark (what expected : String) (p : Piece) : List Piece → Except Refusal (List Piece)
  | q :: ps => if q = p then .ok ps else .error ⟨what, some expected⟩
  | [] => .error ⟨what, some expected⟩

/-- A condition on what has been read. -/
def require (what expected : String) (holds : Bool) : Except Refusal Unit :=
  if holds then .ok () else .error ⟨what, some expected⟩

/-- The number that decimal digits write. -/
def number (ds : List Char) : Nat := ds.foldl (fun n c => n * 10 + (c.toNat - 0x30)) 0

/-! ## Dates -/

/-- A year has a twenty-ninth of February. -/
def isLeap (year : Nat) : Bool := year % 4 == 0 && (year % 100 != 0 || year % 400 == 0)

/-- The number of days in a month. -/
def daysIn (year month : Nat) : Nat :=
  if month = 2 then (if isLeap year then 29 else 28)
  else if month = 4 ∨ month = 6 ∨ month = 9 ∨ month = 11 then 30
  else 31

/-- A month has a day of this number. -/
def isDay (year month day : Nat) : Bool := 1 ≤ day && day ≤ daysIn year month

/-- What follows a date whose year has been read. -/
def afterDate (year : List Char) (ps : List Piece) : Except Refusal (List Piece) := do
  let ps ← mark "date" "month" .dash ps
  let (month, ps) ← digits "date" "month" ps
  let ps ← mark "date" "\x60-\x60 (MM-DD)" .dash ps
  let (day, ps) ← digits "date" "day" ps
  require "date" "a four-digit year (YYYY)" (year.length == 4)
  require "date" "a two-digit month (MM)" (month.length == 2)
  require "date" "a two-digit day (DD)" (day.length == 2)
  require "date" "month between 01 and 12" (1 ≤ number month && number month ≤ 12)
  let last := daysIn (number year) (number month)
  require "date" ("day between 01 and " ++ toString last)
    (isDay (number year) (number month) (number day))
  return ps

/-! ## Times -/

/-- The seconds behind minutes, if there are any, and what follows them. A fraction may follow. -/
def seconds : List Piece → Except Refusal (Option (List Char) × List Piece)
  | .colon :: ps => do
    let (second, ps) ← digits "time" "second" ps
    match ps with
    | .dot :: ps =>
      let (_, ps) ← digits "time" "nanosecond" ps
      return (some second, ps)
    | ps => return (some second, ps)
  | ps => .ok (none, ps)

/-- What follows a time. -/
def afterTime (ps : List Piece) : Except Refusal (List Piece) := do
  let (hour, ps) ← digits "time" "hour" ps
  let ps ← mark "time" "\x60:\x60 (HH:MM)" .colon ps
  let (minute, ps) ← digits "time" "minute" ps
  let (second, ps) ← seconds ps
  require "time" "a two-digit hour (HH)" (hour.length == 2)
  require "time" "a two-digit minute (MM)" (minute.length == 2)
  require "time" "a two-digit second (SS)" (second.all (·.length == 2))
  require "time" "hour between 00 and 23" (number hour ≤ 23)
  require "time" "minute between 00 and 59" (number minute ≤ 59)
  require "time" "second between 00 and 60" (second.all (number · ≤ 60))
  return ps

/-- What follows an offset behind its sign. -/
def afterSign (ps : List Piece) : Except Refusal (List Piece) := do
  let (hours, ps) ← digits "offset" "hour" ps
  let ps ← mark "offset" "\x60:\x60 (HH:MM)" .colon ps
  let (minutes, ps) ← digits "offset" "minute" ps
  require "offset" "a two-digit hour (HH)" (hours.length == 2)
  require "offset" "a two-digit minute (MM)" (minutes.length == 2)
  require "offset" "hours between 00 and 23" (number hours ≤ 23)
  require "offset" "minutes between 00 and 59" (number minutes ≤ 59)
  return ps

/-- What follows an offset, which may be left out. -/
def afterOffset : List Piece → Except Refusal (List Piece)
  | [] => .ok []
  | .universal :: ps => .ok ps
  | .plus :: ps | .dash :: ps => afterSign ps
  | _ => .error ⟨"offset", some "\x60Z\x60, +OFFSET, -OFFSET"⟩

/-! ## Dates and times -/

/-- What follows a date, a time, or both. -/
def after : List Piece → Except Refusal (List Piece)
  | .digits year :: .dash :: ps => do
    match ← afterDate year (.dash :: ps) with
    | [] => return []
    | .between :: ps | .space :: ps => afterOffset (← afterTime ps)
    | _ => .error ⟨"date-time", some "\x60T\x60 between date and time"⟩
  | .digits hour :: .colon :: ps => afterTime (.digits hour :: .colon :: ps)
  | .digits _ :: _ => .error ⟨"datetime", some "\x60-\x60 (YYYY-MM) or \x60:\x60 (HH:MM)"⟩
  | _ => .error ⟨"datetime", some "year or hour"⟩

/-- Why a text is no date, if it is none. -/
def refusal? (s : List Char) : Option Refusal :=
  match after (Piece.ofText s) with
  | .error r => some r
  | .ok [] => none
  | .ok (_ :: _) => some ⟨"datetime", none⟩

end ClarityCheck.Toml.Moment

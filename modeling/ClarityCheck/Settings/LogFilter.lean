import ClarityCheck.Settings.Choice
import ClarityCheck.Text.Alphanumeric
import ClarityCheck.Text.Blank
import ClarityCheck.Text.Cut
import ClarityCheck.Text.Regular
import ClarityCheck.Text.Utf8

/-!
# Filters of log events

A filter is a list of directives with commas between them. A directive is a level, a target, or a
target, a span in brackets, or both, with a level behind an equals sign. A span may have a field in
braces, and the field a value, which is a number or a regular expression.
-/

namespace ClarityCheck.Settings.LogFilter

open ClarityCheck.Text

/-- What is wrong with a filter. -/
inductive Problem where
  /-- A directive does not have the form of one. -/
  | directive
  /-- What stands in the place of a level is none. -/
  | level
  /-- The value of a field is no regular expression. -/
  | field
  deriving DecidableEq, Repr

/-- The wording of a problem. -/
def Problem.message : Problem → String
  | .directive => "invalid filter directive"
  | .level =>
    "error parsing level filter: expected one of \"off\", \"error\", \"warn\", \"info\", \"debug\", \"trace\", or a number 0-5"
  | .field => "invalid field filter: error building NFA"

/-- Where a reader of a directive stands. -/
inductive State where
  | start
  /-- In a word that is a level or a target. -/
  | levelOrTarget
  /-- Behind an opening bracket. -/
  | span
  /-- In a field that begins behind a number of bytes. -/
  | field (before : Nat)
  /-- Behind a closing brace. -/
  | fields
  /-- Behind a closing bracket. -/
  | target
  /-- In a level that begins behind a number of bytes. -/
  | level (before : Nat)
  deriving DecidableEq, Repr

/-- A character that a level or a target may start with. -/
def isOpening (c : Char) : Bool := c == '-' || c == ':' || c == '_' || isAlphanumeric c

/-- A number with a plus sign in front, which is no regular expression. -/
def isSignedNumber : List Char → Bool
  | '+' :: s =>
    let exponent (s : List Char) : Bool := match s with
      | [] => true
      | c :: s =>
        let digits := if s.head? == some '+' || s.head? == some '-' then s.tail else s
        (c == 'e' || c == 'E') && !digits.isEmpty && digits.all Char.isDigit
    let words := ["inf", "infinity", "nan"]
    words.any (sameWord · (String.ofList s)) ||
      match s.takeWhile Char.isDigit, s.dropWhile Char.isDigit with
      | whole, '.' :: s =>
        (!whole.isEmpty || s.head?.any Char.isDigit) && exponent (s.dropWhile Char.isDigit)
      | whole, s => !whole.isEmpty && exponent s
  | _ => false

/-- The value of a field, if it has one, may be looked for. -/
def isField (s : List Char) : Bool :=
  match splitOn '=' s with
  | _ :: value :: _ => isSignedNumber value || Regular.isExpression value
  | _ => true

/-- The state behind a character of a text, which is preceded by a number of bytes. A comma never
occurs. -/
def State.step (source : Bytes) (position : Nat) : State → Char → Except Problem State
  | .start, c =>
    if c = '[' then .ok .span else if isOpening c then .ok .levelOrTarget else .error .directive
  | .levelOrTarget, c =>
    if c = '=' then .ok (.level (position + 1))
    else if c = '[' then .ok .span
    else .ok .levelOrTarget
  | .span, c =>
    if c = ']' then .ok .target
    else if c = '\x7b' then .ok (.field (position + 1))
    else .ok .span
  | .field before, c =>
    if c ≠ '\x7d' then .ok (.field before)
    else if position = before then .error .directive
    else if isField (Utf8.decodeLossy ((source.take position).drop before)) then .ok .fields
    else .error .field
  | .fields, c => if c = ']' then .ok .target else .error .directive
  | .target, c => if c = '=' then .ok (.level (position + 1)) else .error .directive
  | .level before, _ => .ok (.level before)

/-- The state behind characters of a text. -/
def State.run (source : Bytes) (position : Nat) : State → List Char → Except Problem State
  | s, [] => .ok s
  | s, c :: cs =>
    match s.step source position c with
    | .error p => .error p
    | .ok s => State.run source (position + c.utf8Size) s cs

/-- The words for levels. -/
def levels : List String := ["off", "error", "warn", "info", "debug", "trace"]

/-- A number up to five, perhaps with a plus sign. -/
def isLevelNumber (s : List Char) : Bool :=
  let digits := if s.head? == some '+' then s.tail else s
  digits != [] && digits.all Char.isDigit
    && match digits.dropWhile (· == '0') with
      | [] => true
      | [d] => d ≤ '5'
      | _ => false

/-- A level: nothing at all, a word in any case, or a number. -/
def isLevel (s : List Char) : Bool :=
  s.isEmpty || levels.any (sameWord · (String.ofList s)) || isLevelNumber s

/-- What is wrong with a directive. Blanks around it do not count for its form, but levels and
fields are taken from the directive as it is written. -/
def directiveProblem? (s : List Char) : Option Problem :=
  let source := Utf8.encode s
  match State.run source 0 .start (trim s) with
  | .ok .levelOrTarget | .ok .target => none
  | .ok (.level before) =>
    if isLevel (Utf8.decodeLossy (source.drop before)) then none else some .level
  | .ok _ => some .directive
  | .error p => some p

/-- The first problem of a filter, if there is one. -/
def problem? (filter : String) : Option Problem :=
  ((splitOn ',' filter.toList).filter (· ≠ [])).findSome? directiveProblem?

end ClarityCheck.Settings.LogFilter

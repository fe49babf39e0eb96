import ClarityCheck.Json.Basic
import ClarityCheck.Toml.Number

/-!
# Scalars of TOML

What a word stands for: a string, number, truth value or date. As JSON values, infinite numbers are
`null`, and dates are objects with the date as their only member.
-/

namespace ClarityCheck.Toml

/-- A value other than an array or a table. Numbers keep their word for faults. -/
inductive Scalar where
  | string (s : String)
  /-- An integer. It has no value when its digits are none of its base. -/
  | integer (w : Word) (value : Option Int)
  | decimal (w : Word) (negative : Bool) (significand : Nat) (exponent : Int)
  /-- An infinite number, or none. -/
  | unbounded
  | boolean (b : Bool)
  | moment (text : String)
  deriving DecidableEq, Repr

namespace Word

/-! ## Words without quotes -/

/-- Quotes, the longest first. -/
def quotes : List String := ["'''", "\"\"\"", "'", "\""]

/-- The fault of a word that is nothing without quotes. -/
def unquoted (w : Word) : Fault :=
  match quotes.find? (fun q => (Text.dropEnd? q.toList w.chars).isSome) with
  | some q => .between (Fault.expecting "missing opening quote" [Fault.piece q]) w.start
  | none => w.fault (Fault.expecting "string values must be quoted" ["literal string"])

/-- The fault of a word that should be a name for a value of some kind. -/
def misnamed (kind name : String) : String :=
  Fault.expecting ("invalid " ++ kind) [Fault.piece name]

/-- A word that has to be a name for a value of some kind. With a space inside it is taken for a
string without quotes. -/
def symbol (w : Word) (kind name : String) (value : Scalar) : Checked Scalar :=
  if w.chars = name.toList then .ok value
  else if w.chars.contains ' ' then .error w.unquoted
  else .error (w.fault (misnamed kind name))

/-- An infinite number behind a sign. -/
def signedSymbol (w : Word) (name : String) (s : List Char) : Checked Scalar :=
  if s = name.toList then .ok .unbounded
  else .error ⟨misnamed "float" name, w.stop - s.length, w.stop⟩

/-- The decimal that a word writes; `s` is the word without its sign. -/
def decimal (w : Word) (s : List Char) : Checked Scalar :=
  match w.decimalParts s with
  | .error f => .error f
  | .ok p =>
    match w.underscoreFault? Char.isDigit w.chars with
    | some f => .error f
    | none => .ok (.decimal w (w.chars.head? == some '-') p.value.1 p.value.2)

/-- The integer to the base ten that a word writes; `s` is the word without its sign. -/
def integer (w : Word) (s : List Char) : Checked Scalar :=
  if s.head? = some '0' ∧ 1 < s.length then .error (leadingZero (w.stop - s.length))
  else
    match w.underscoreFault? (fun c => (hexValue? c).isSome) w.chars with
    | some f => .error f
    | none => .ok (.integer w (intOf? .ten w.chars))

/-- The date that a word writes. -/
def moment (w : Word) : Checked Scalar :=
  match Moment.refusal? w.chars with
  | some r => .error (w.fault r.message)
  | none => .ok (.moment (String.ofList w.chars))

/-- A number or date; `s` is the word without its sign. -/
def numberOrDate (w : Word) (s : List Char) : Checked Scalar :=
  let rest := s.dropWhile Char.isDigit
  if rest = [] then w.integer s
  else if rest.head? = some '-' ∨ rest.head? = some ':' then w.moment
  else if rest.contains ' ' then .error w.unquoted
  else if rest.any (fun c => c == '.' || c == 'e' || c == 'E') then w.decimal s
  else if rest.head? = some '_' then w.integer s
  else .error w.unquoted

/-- A number or date that may have a letter for its base behind a zero in front. -/
def numberInBase (w : Word) (signed : Bool) (s : List Char) : Checked Scalar :=
  match s with
  | '0' :: letter :: r =>
    match Base.ofLetter? letter with
    | some base =>
      match w.baseFault? signed letter base r with
      | some f => .error f
      | none => .ok (.integer w (intOf? base r))
    | none => w.numberOrDate s
  | s => w.numberOrDate s

/-- The value that a word with a sign in front writes, behind which `s` stands. -/
def signed (w : Word) (s : List Char) : Checked Scalar :=
  match s with
  | [] => .error w.unquoted
  | c :: _ =>
    if c = '+' ∨ c = '-' then
      .error ⟨Fault.expecting "redundant numeric sign" [], w.start + 1, w.start + 2⟩
    else if c = '.' then w.decimal s
    else if c.isDigit ∨ c = '_' then w.numberInBase true s
    else if c = 'i' ∨ c = 'I' then w.signedSymbol "inf" s
    else if c = 'n' ∨ c = 'N' then w.signedSymbol "nan" s
    else .error w.unquoted

/-- The value that a word without quotes writes. Its first character tells what it should be. -/
def bare (w : Word) : Checked Scalar :=
  match w.chars with
  | [] => .error w.unquoted
  | c :: s =>
    if c = '+' ∨ c = '-' then w.signed s
    else if c = '.' then w.decimal w.chars
    else if c.isDigit ∨ c = '_' then w.numberInBase false w.chars
    else if c = 't' ∨ c = 'T' then w.symbol "boolean" "true" (.boolean true)
    else if c = 'f' ∨ c = 'F' then w.symbol "boolean" "false" (.boolean false)
    else if c = 'i' ∨ c = 'I' then w.symbol "float" "inf" .unbounded
    else if c = 'n' ∨ c = 'N' then w.symbol "float" "nan" .unbounded
    else .error w.unquoted

/-- The value that a word writes. -/
def scalar (w : Word) : Checked Scalar :=
  match w.quote with
  | some q => (w.string q).map .string
  | none => w.bare

end Word

namespace Scalar

/-- What a value is called in faults. -/
def kindName : Scalar → String
  | .string _ => "string"
  | .integer .. => "integer"
  | .decimal .. | .unbounded => "float"
  | .boolean _ => "boolean"
  | .moment _ => "datetime"

/-- The member that holds a date. -/
def dateMember : String := "$__toml_private_datetime"

/-- Why an integer does not fit into 64 bits with a sign, as faults tell it. -/
def tooLarge (n : Int) : String :=
  let wide (name : String) : String :=
    "invalid type: integer " ++ Fault.piece (toString n) ++ " as " ++ name
      ++ ", expected any valid TOML value"
  if 0 ≤ n ∧ n < 0x1_0000_0000_0000_0000 then "u64 value was too large"
  else if -0x8000_0000_0000_0000_0000_0000_0000_0000 ≤ n ∧
      n < 0x8000_0000_0000_0000_0000_0000_0000_0000 then wide "i128"
  else if 0 ≤ n ∧ n < 0x1_0000_0000_0000_0000_0000_0000_0000_0000 then wide "u128"
  else "integer number overflowed"

/-- The JSON value of a scalar. A number has to fit. -/
def toJson : Scalar → Checked Json
  | .string s => .ok (.str s)
  | .integer w none => .error (w.fault "integer number overflowed")
  | .integer w (some n) =>
    if -0x8000_0000_0000_0000 ≤ n ∧ n < 0x8000_0000_0000_0000 then .ok (.num (.integer n))
    else .error (w.fault (tooLarge n))
  | .decimal w negative significand exponent =>
    if Decimal.exceedsDouble significand exponent then
      .error (w.fault "floating-point number overflowed")
    else .ok (.num (.double negative (Decimal.nearest significand exponent)))
  | .unbounded => .ok .null
  | .boolean b => .ok (.bool b)
  | .moment text => .ok (.obj [(dateMember, .str text)])

end Scalar

end ClarityCheck.Toml

import ClarityCheck.Host.Shell.Token

/-!
# Arithmetic in scripts

The expressions between `$((` and `))` are read and computed in one pass, in words of 64 bits. What
is skipped by a condition is read but neither computed nor assigned.
-/

namespace ClarityCheck.Host.Shell.Arithmetic

/-- The number of values of a word. -/
def wordSize : Nat := 0x1_0000_0000_0000_0000

/-- A number as a word keeps it. -/
def wrap (n : Int) : Int := n.bmod wordSize

/-! ## Numbers -/

/-- A number at the end of the range of a word. -/
def saturate (n : Int) : Int := max (-0x8000_0000_0000_0000) (min (0x8000_0000_0000_0000 - 1) n)

/-- The number that the value of a variable writes; an empty one is zero. -/
def number? (s : Raw) : Option Int :=
  match Raw.cutWhole? s with
  | some (n, rest) => if rest.all Raw.isSpace && saturate n == n then some n else none
  | none => if s.all Raw.isSpace then some 0 else none

/-! ## Reading and computing -/

/-- What has been read of an expression, and what it has assigned so far. -/
structure State where
  rest : Raw
  value? : Raw → Option Raw
  assigned : List (Raw × Int)

/-- A computation that may fail. -/
abbrev Computation (α : Type) := StateT State (Except String) α

/-- The parts of an expression. -/
inductive Item where
  | number (n : Int)
  | name (s : Raw)
  | sign (s : String)
  | finish
  deriving DecidableEq, Repr

/-- The signs of expressions, longer ones first. -/
def signs : List String :=
  ["<<=", ">>=", "==", "!=", "<=", ">=", "<<", ">>", "&&", "||", "+=", "-=", "*=", "/=", "%=", "&=",
    "|=", "^=", "=", "<", ">", "|", "&", "!", "*", "/", "%", "+", "-", "^", "~", "(", ")", "?", ":"]

/-- Cuts the first part of an expression. -/
def cutItem (s : Raw) : Item × Raw :=
  let s := s.dropWhile fun c => c == ' ' || c == '\t' || c == '\n'
  match s with
  | [] => (.finish, [])
  | c :: r =>
    if c.isDigit then
      match Raw.cutNatural? s with
      | some (n, rest) => (.number (saturate n), rest)
      | none => (.sign "", s)
    else if Token.isNameStart c
      then (.name (s.takeWhile Token.isNameChar), s.dropWhile Token.isNameChar)
    else
      match Token.sign? signs s with
      | some o => (.sign o, s.drop o.length)
      | none => (.sign "", r)

/-- Looks at the next part. -/
def look : Computation Item := fun s => .ok ((cutItem s.rest).1, s)

/-- Takes the next part. -/
def take : Computation Item :=
  fun s => .ok ((cutItem s.rest).1, { s with rest := (cutItem s.rest).2 })

/-- The value of a variable. -/
def valueOfName (name : Raw) : Computation Int := do
  let s ← get
  match s.assigned.lookup name with
  | some n => return n
  | none =>
    let v := (s.value? name).getD []
    match number? v with
    | some n => return n
    | none => throw ("Illegal number: " ++ String.ofList v)

/-- How closely a sign binds, from the closest on. -/
def levelOf? (o : String) : Option Nat :=
  [("*", 0), ("/", 0), ("%", 0), ("+", 1), ("-", 1), ("<<", 2), (">>", 2), ("<", 3), ("<=", 3),
    (">", 3), (">=", 3), ("==", 4), ("!=", 4), ("&", 5), ("^", 6), ("|", 7)].lookup o

/-- A truth value as a number. -/
def truth (b : Bool) : Int := if b then 1 else 0

/-- The bits of a word. -/
def bits (n : Int) : BitVec 64 := BitVec.ofInt 64 n

/-- Computes with two numbers. -/
def compute (o : String) (a b : Int) : Except String Int :=
  match o with
  | "*" => .ok (wrap (a * b))
  | "/" => if b = 0 then .error "division by zero" else .ok (wrap (a.tdiv b))
  | "%" => if b = 0 then .error "division by zero" else .ok (wrap (a.tmod b))
  | "+" => .ok (wrap (a + b))
  | "-" => .ok (wrap (a - b))
  | "<<" => .ok (bits a <<< ((bits b).toNat % 64)).toInt
  | ">>" => .ok ((bits a).sshiftRight ((bits b).toNat % 64)).toInt
  | "<" => .ok (truth (a < b))
  | "<=" => .ok (truth (a ≤ b))
  | ">" => .ok (truth (b < a))
  | ">=" => .ok (truth (b ≤ a))
  | "==" => .ok (truth (a == b))
  | "!=" => .ok (truth (a != b))
  | "&" => .ok (bits a &&& bits b).toInt
  | "^" => .ok (bits a ^^^ bits b).toInt
  | _ => .ok (bits a ||| bits b).toInt

/-- The sign that an assigning sign computes with. -/
def assigning? (o : String) : Option String :=
  match o with
  | "=" => some ""
  | "==" | "<=" | ">=" | "!=" => none
  | o => if o.endsWith "=" then some (String.ofList (o.toList.dropLast)) else none

/-- Wants a sign. -/
def expect (o : String) : Computation Unit := do
  match ← take with
  | .sign p => if p = o then return () else throw ("expecting '" ++ o ++ "'")
  | _ => throw ("expecting '" ++ o ++ "'")

/-- A number, a variable, or an expression in parentheses. The first argument computes the latter.
-/
def primary (inner : (skipped : Bool) → Computation Int) (skipped : Bool) :
    (fuel : Nat) → Computation Int
  | 0 => throw "expecting primary"
  | fuel + 1 => do
    match ← take with
    | .number n => return n
    | .name x => if skipped then return 0 else valueOfName x
    | .sign "(" =>
      let n ← inner skipped
      expect ")"
      return n
    | .sign "+" => primary inner skipped fuel
    | .sign "-" => return wrap (-(← primary inner skipped fuel))
    | .sign "!" => return truth ((← primary inner skipped fuel) == 0)
    | .sign "~" => return -(← primary inner skipped fuel) - 1
    | _ => throw "expecting primary"

/-- Goes on behind a number with signs that bind at least as closely as a level. -/
def binaryFrom (inner : (skipped : Bool) → Computation Int) (skipped : Bool) :
    (fuel level : Nat) → Int → Computation Int
  | 0, _, a => return a
  | fuel + 1, level, a => do
    match ← look with
    | .sign o =>
      match levelOf? o with
      | some n =>
        if level < n then return a
        let _ ← take
        let b ← primary inner skipped (fuel + 1)
        let b ← if n = 0 then pure b else binaryFrom inner skipped fuel (n - 1) b
        let c ← if skipped then pure b else match compute o a b with
          | .ok c => pure c
          | .error e => throw e
        binaryFrom inner skipped fuel level c
      | none => return a
    | _ => return a

/-- A sequence of numbers and signs without conditions. -/
def binary (inner : (skipped : Bool) → Computation Int) (skipped : Bool) (fuel : Nat) :
    Computation Int := do
  binaryFrom inner skipped fuel 7 (← primary inner skipped fuel)

/-- Both of several numbers. -/
def conjunction (inner : (skipped : Bool) → Computation Int) : (fuel : Nat) → (skipped : Bool) →
    Computation Int
  | 0, _ => throw "expecting primary"
  | fuel + 1, skipped => do
    let a ← binary inner skipped (fuel + 1)
    if (← look) = .sign "&&" then
      let _ ← take
      let b ← conjunction inner fuel (skipped || a == 0)
      return truth (a != 0 && b != 0)
    else return a

/-- One of several numbers. -/
def disjunction (inner : (skipped : Bool) → Computation Int) : (fuel : Nat) → (skipped : Bool) →
    Computation Int
  | 0, _ => throw "expecting primary"
  | fuel + 1, skipped => do
    let a ← conjunction inner (fuel + 1) skipped
    if (← look) = .sign "||" then
      let _ ← take
      let b ← disjunction inner fuel (skipped || a != 0)
      return truth (a != 0 || b != 0)
    else return a

/-- A choice between two numbers. -/
def choice (inner : (skipped : Bool) → Computation Int) : (fuel : Nat) → (skipped : Bool) →
    Computation Int
  | 0, _ => throw "expecting primary"
  | fuel + 1, skipped => do
    let a ← disjunction inner (fuel + 1) skipped
    if (← look) = .sign "?" then
      let _ ← take
      let b ← inner (skipped || a == 0)
      expect ":"
      let c ← choice inner fuel (skipped || a != 0)
      return if a != 0 then b else c
    else return a

/-- An expression, in which assignments are nested at most `fuel` deep. -/
def expression : (fuel : Nat) → (skipped : Bool) → Computation Int
  | 0, _ => throw "expecting primary"
  | fuel + 1, skipped => do
    let start ← get
    match ← take, ← look with
    | .name x, .sign o =>
      match assigning? o with
      | some o =>
        let _ ← take
        let n ← expression fuel skipped
        if skipped then return n
        let n ← if o = "" then pure n else do
          match compute o (← valueOfName x) n with
          | .ok n => pure n
          | .error e => throw e
        modify fun s => { s with assigned := (x, n) :: s.assigned }
        return n
      | none =>
        set start
        choice (expression fuel) (fuel + 1) skipped
    | _, _ =>
      set start
      choice (expression fuel) (fuel + 1) skipped

/-- The value of an expression and what it assigns, the latest first; or what is wrong with it. -/
def evaluate (value? : Raw → Option Raw) (s : Raw) : Except String (Int × List (Raw × Int)) :=
  let whole : Computation Int := do
    let n ← expression (s.length + 2) false
    if (← look) = .finish then return n else throw "expecting EOF"
  match whole.run ⟨s, value?, []⟩ with
  | .ok (n, state) => .ok (n, state.assigned)
  | .error e =>
    .error (if e.startsWith "Illegal number" then e
      else "arithmetic expression: " ++ e ++ ": \"" ++ String.ofList s ++ "\"")

end ClarityCheck.Host.Shell.Arithmetic

import ClarityCheck.Host.Utility.Basic

/-!
# Conditions

`test` decides a condition on texts, numbers and files. Conditions are read from the front of the
arguments; whether an argument is an operator depends on those behind it.
-/

namespace ClarityCheck.Host

namespace Condition

/-- The number of arguments that an operator belongs to. -/
inductive Kind where
  | unary
  | binary
  | negation
  | both
  | either
  | opening
  | closing
  deriving DecidableEq, Repr

/-- The operators on one text. -/
def unaryOperators : List String :=
  ["-r", "-w", "-x", "-e", "-f", "-d", "-c", "-b", "-p", "-u", "-g", "-k", "-s", "-t", "-z", "-n",
    "-h", "-O", "-G", "-L", "-S"]

/-- The operators on two texts. -/
def binaryOperators : List String :=
  ["=", "==", "!=", "<", ">", "-eq", "-ne", "-ge", "-gt", "-le", "-lt", "-nt", "-ot", "-ef"]

/-- The kind of an operator. -/
def kindOf? (s : Raw) : Option Kind :=
  match String.ofList s with
  | "!" => some .negation
  | "-a" => some .both
  | "-o" => some .either
  | "(" => some .opening
  | ")" => some .closing
  | s =>
    if unaryOperators.contains s then some .unary
    else if binaryOperators.contains s then some .binary
    else none

/-- The kind of the operator that arguments begin with. An operator on one text is a text itself
where none follows or where an operator on two does. -/
def lead? : List Raw → Option Kind
  | [] => none
  | s :: rest =>
    match kindOf? s with
    | some .unary =>
      match rest with
      | [] => none
      | [_] => some .unary
      | t :: _ :: _ => if kindOf? t = some .binary then none else some .unary
    | some .opening => if rest.isEmpty then none else some .opening
    | k => k

/-! ## Operators -/

/-- The number that a text writes. -/
def number (s : Raw) : Except String Int :=
  let t := s.dropWhile Raw.isSpace
  let t := (t.reverse.dropWhile Raw.isSpace).reverse
  match Raw.int? t with
  | some n =>
    if -0x8000_0000_0000_0000 ≤ n ∧ n < 0x8000_0000_0000_0000 then .ok n
    else .error ("Illegal number: " ++ String.ofList s)
  | none => .error ("Illegal number: " ++ String.ofList s)

/-- A condition on one text. -/
def unary (files : Files) (operator : String) (s : Raw) : Except String Bool :=
  let node := files.stat (Raw.path s)
  match operator with
  | "-n" => .ok !s.isEmpty
  | "-z" => .ok s.isEmpty
  | "-t" => (number s).map fun _ => false
  | "-f" => .ok (files.isFile (Raw.path s))
  | "-d" => .ok (files.isDirectory (Raw.path s))
  | "-x" => .ok <| match node with
    | .ok (.file _ permissions) => permissions.allowsRunning
    | .ok .directory => true
    | _ => false
  | "-s" => .ok <| match node with
    | .ok (.file content _) => !content.isEmpty
    | .ok .directory => true
    | _ => false
  | "-c" => .ok <| match node with
    | .ok (.device _) => true
    | _ => false
  | "-b" | "-p" | "-S" | "-u" | "-g" | "-k" => .ok false
  | "-h" | "-L" => .ok <| match files.locate false (Raw.path s) with
    | .ok l => match files.get? l with
      | some (.link _) => true
      | _ => false
    | .error _ => false
  | _ => .ok node.toBool

/-- A text comes before another one. -/
def before : Raw → Raw → Bool
  | _, [] => false
  | [], _ :: _ => true
  | a :: s, b :: t => a < b || (a == b && before s t)

/-- A condition on two texts. -/
def binary (files : Files) (a : Raw) (operator : String) (b : Raw) : Except String Bool :=
  let compare (holds : Int → Int → Bool) : Except String Bool := do
    return holds (← number a) (← number b)
  let same : Bool := match files.locate true (Raw.path a), files.locate true (Raw.path b) with
    | .ok l, .ok m => l == m && (files.get? l).isSome
    | _, _ => false
  match operator with
  | "=" | "==" => .ok (a == b)
  | "!=" => .ok (a != b)
  | "<" => .ok (before a b)
  | ">" => .ok (before b a)
  | "-eq" => compare (· == ·)
  | "-ne" => compare (· != ·)
  | "-lt" => compare (· < ·)
  | "-le" => compare (· ≤ ·)
  | "-gt" => compare fun m n => n < m
  | "-ge" => compare fun m n => n ≤ m
  | "-ef" => .ok same
  | _ => .ok false

/-! ## Reading -/

/-- A complaint about an argument. -/
def wrong {α : Type} (s : Raw) (message : String) : Except String α :=
  .error (if s.isEmpty then message else String.ofList s ++ ": " ++ message)

/-- What a part of a condition comes to, and the arguments from its last one on. -/
abbrev Part := Except String (Bool × List Raw)

/-- A single condition, or one in parentheses. -/
def primary (files : Files) (inner : List Raw → Part) (args : List Raw) : Part :=
  match args, lead? args with
  | [], _ => .ok (false, [])
  | _ :: rest, some .opening =>
    match lead? rest with
    | some .closing => .ok (false, rest)
    | _ =>
      match inner rest with
      | .error e => .error e
      | .ok (b, last) =>
        if lead? (last.drop 1) = some .closing then .ok (b, last.drop 1)
        else wrong [] "closing paren expected"
  | o :: rest, some .unary =>
    match rest with
    | [] => wrong o "argument expected"
    | s :: _ => (unary files (String.ofList o) s).map fun b => (b, rest)
  | s :: rest, _ =>
    if lead? rest = some .binary then
      match rest with
      | o :: t :: more => (binary files s (String.ofList o) t).map fun b => (b, t :: more)
      | [o] => wrong o "argument expected"
      | [] => .ok (!s.isEmpty, [s])
    else .ok (!s.isEmpty, s :: rest)

/-- A condition behind any number of exclamation marks. -/
def negations (files : Files) (inner : List Raw → Part) : List Raw → Part
  | [] => .ok (false, [])
  | s :: rest =>
    if lead? (s :: rest) = some .negation then
      if rest.isEmpty then .ok (true, [s])
      else (negations files inner rest).map fun r => (!r.1, r.2)
    else primary files inner (s :: rest)

/-- Conditions of which all have to hold. -/
def conjunction (files : Files) (inner : List Raw → Part) : (fuel : Nat) → List Raw → Part
  | 0, args => .ok (false, args)
  | fuel + 1, args => do
    let (b, last) ← negations files inner args
    if lead? (last.drop 1) = some .both then
      let (c, last) ← conjunction files inner fuel (last.drop 2)
      return (b && c, last)
    else return (b, last)

/-- Conditions of which one has to hold. Parentheses are nested at most `fuel` deep. -/
def disjunction (files : Files) : (fuel : Nat) → List Raw → Part
  | 0, args => .ok (false, args)
  | fuel + 1, args => do
    let (b, last) ← conjunction files (disjunction files fuel) (fuel + 1) args
    if lead? (last.drop 1) = some .either then
      let (c, last) ← disjunction files fuel (last.drop 2)
      return (b || c, last)
    else return (b, last)

/-- Decides a condition of any form. -/
def whole (files : Files) (args : List Raw) : Except String Bool := do
  let (b, last) ← disjunction files (args.length + 1) args
  match last with
  | s :: _ :: _ => wrong s "unexpected operator"
  | _ => return b

/-- Decides the condition that arguments write. Up to four of them are read by their number. -/
def decide (files : Files) (args : List Raw) : Except String Bool :=
  match args with
  | [] => .ok false
  | [a, o, b] =>
    if kindOf? o = some .binary then binary files a (String.ofList o) b
    else if a = ['('] ∧ b = [')'] then whole files [o]
    else if a = ['!'] then
      match decide files [o, b] with
      | .ok r => .ok !r
      | .error e => .error e
    else whole files args
  | [a, b, c, d] =>
    if a = ['('] ∧ d = [')'] then whole files [b, c]
    else if a = ['!'] then
      match decide files [b, c, d] with
      | .ok r => .ok !r
      | .error e => .error e
    else whole files args
  | args => whole files args
termination_by args.length

end Condition

/-- Decides a condition. -/
def test : Utility := fun j =>
  match Condition.decide j.files j.arguments with
  | .ok b => j.nothing.ending (if b then 0 else 1)
  | .error m => j.fails 2 m

/-- Decides a condition in brackets. -/
def bracket : Utility := fun j =>
  if j.arguments.getLast? = some [']'] then test { j with arguments := j.arguments.dropLast }
  else j.fails 2 "missing ]"

end ClarityCheck.Host

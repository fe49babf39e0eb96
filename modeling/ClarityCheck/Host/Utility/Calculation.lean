import ClarityCheck.Host.Utility.Basic
import ClarityCheck.Host.Utility.Expression

/-!
# Calculating with arguments

Values that arguments write one by one, joined by signs, and rows of numbers.
-/

namespace ClarityCheck.Host

namespace Calculation

/-! ## Values -/

/-- The number that a text writes, with a minus in front of a negative one. -/
def integer? : Raw → Option Int
  | '-' :: s => (Raw.nat? s).map fun n => -(n : Int)
  | s => (Raw.nat? s).map Int.ofNat

/-- A number as a text. -/
def ofInt (n : Int) : Raw := (toString n).toList

/-- A value counts as something: it is neither empty nor zero. -/
def isTrue (s : Raw) : Bool :=
  let digits := match s with
    | '-' :: r => r
    | r => r
  !s.isEmpty && (digits.isEmpty || digits.any (· ≠ '0'))

/-- Compares two values, as numbers if both are. -/
def order (a b : Raw) : Ordering :=
  match integer? a, integer? b with
  | some n, some m => compare n m
  | _, _ => compareText a b
where
  compareText : Raw → Raw → Ordering
    | [], [] => .eq
    | [], _ :: _ => .lt
    | _ :: _, [] => .gt
    | a :: s, b :: r => if a < b then .lt else if b < a then .gt else compareText s r

/-- The part of a text that an expression fits at its beginning: the first group, or the number of
its characters where there is none. -/
def matched (text pattern : Raw) : Except String Raw :=
  match Expression.read ⟨false, false, true⟩ pattern with
  | .error m => .error m
  | .ok e =>
    let chars := text.toArray
    let hasGroup := (List.range pattern.length).any fun i =>
      (pattern.drop i).take 2 = ['\\', '(']
    match Expression.fitAt false e chars (fun _ => true) 0 with
    | none => .ok (if hasGroup then [] else ['0'])
    | some f =>
      if hasGroup then
        match f.trace.groups.lookup 1 with
        | some (a, b) => .ok ((text.drop a).take (b - a))
        | none => .ok []
      else .ok (toString f.trace.place).toList

/-! ## Reading -/

/-- The arguments that are left, and the one that was read last. -/
abbrev Reading (α : Type) := StateT (List Raw × Raw) (Except String) α

/-- A calculation that cannot go on. -/
def problem {α : Type} (message : String) : Reading α := fun _ => .error message

/-- Takes an argument that has to come. -/
def next : Reading Raw := do
  match ← get with
  | ([], last) =>
    problem ("syntax error: missing argument after '" ++ String.ofList last ++ "'")
  | (a :: rest, _) => set (rest, a); return a

/-- Takes one of some signs if it comes next. -/
def sign? (signs : List String) : Reading (Option String) := do
  match ← get with
  | ([], _) => return none
  | (a :: rest, _) =>
    let s := String.ofList a
    if signs.contains s then set (rest, a); return some s else return none

/-- Reads operands with signs of one kind between them, at most `fuel` of them. -/
def chain (operand : Reading Raw) (signs : List String)
    (join : String → Raw → Raw → Except String Raw) :
    (fuel : Nat) → Raw → Reading Raw
  | 0, v => return v
  | fuel + 1, v => do
    match ← sign? signs with
    | none => return v
    | some s =>
      let w ← operand
      match join s v w with
      | .ok u => chain operand signs join fuel u
      | .error m => problem m

/-- Joins two numbers. -/
def calculate (s : String) (a b : Raw) : Except String Raw :=
  match integer? a, integer? b with
  | some n, some m =>
    match s with
    | "+" => .ok (ofInt (n + m))
    | "-" => .ok (ofInt (n - m))
    | "*" => .ok (ofInt (n * m))
    | "/" => if m = 0 then .error "division by zero" else .ok (ofInt (n.tdiv m))
    | _ => if m = 0 then .error "division by zero" else .ok (ofInt (n.tmod m))
  | _, _ => .error "non-integer argument"

/-- The outcome of a comparison. -/
def comparison (s : String) (a b : Raw) : Except String Raw :=
  let holds : Bool := match s, order a b with
    | "<", o => o == .lt
    | "<=", o => o != .gt
    | "=", o | "==", o => o == .eq
    | "!=", o => o != .eq
    | ">=", o => o != .lt
    | _, o => o == .gt
  .ok [if holds then '1' else '0']

/-- Reads a value, a calculation in parentheses or one that a word names. -/
def operand (inner : Reading Raw) : Reading Raw := do
  let a ← next
  match String.ofList a with
  | "(" =>
    let v ← inner
    match ← get with
    | ([')'] :: rest, _) => set (rest, [')']); return v
    | ([], last) => problem ("syntax error: expecting ')' after '" ++ String.ofList last ++ "'")
    | (b :: _, _) => problem ("syntax error: expecting ')' instead of '" ++ String.ofList b ++ "'")
  | ")" => problem "syntax error: unexpected ')'"
  | "+" => next
  | "length" => return (toString (← next).length).toList
  | "match" =>
    let s ← next
    let p ← next
    match matched s p with
    | .ok v => return v
    | .error m => problem m
  | "index" =>
    let s ← next
    let cs ← next
    let before := s.takeWhile fun c => !cs.contains c
    return (toString (if before.length = s.length then 0 else before.length + 1)).toList
  | "substr" =>
    let s ← next
    let first ← next
    let count ← next
    match Raw.nat? first, Raw.nat? count with
    | some (n + 1), some m => return (s.drop n).take m
    | _, _ => return []
  | _ => return a

/-- Reads a calculation whose parts are nested at most `fuel` deep. -/
def whole : (fuel : Nat) → Reading Raw
  | 0 => problem "syntax error"
  | fuel + 1 => do
    let size := (← get).1.length + 1
    let level (below : Reading Raw) (signs : List String)
        (join : String → Raw → Raw → Except String Raw) : Reading Raw := do
      chain below signs join size (← below)
    let matches_ := level (operand (whole fuel)) [":"] fun _ => matched
    let products := level matches_ ["*", "/", "%"] calculate
    let sums := level products ["+", "-"] calculate
    let comparisons := level sums ["<", "<=", "=", "==", "!=", ">=", ">"] comparison
    let both := level comparisons ["&"] fun _ a b =>
      .ok (if isTrue a && isTrue b then a else ['0'])
    level both ["|"] fun _ a b => .ok (if isTrue a then a else if isTrue b then b else ['0'])

/-! ## Rows of numbers -/

/-- A number in tenths, hundredths or smaller parts: its digits as one number, and how many of them
are behind the point. -/
def decimal? (s : Raw) : Option (Int × Nat) :=
  let (negative, s) := match s with
    | '-' :: r => (true, r)
    | '+' :: r => (false, r)
    | r => (false, r)
  let whole := s.takeWhile (· ≠ '.')
  let part := (s.dropWhile (· ≠ '.')).drop 1
  (Raw.nat? (whole ++ part)).map fun n => (if negative then -(n : Int) else n, part.length)

/-- A number brought to a width by zeros behind its sign. -/
def padded (width : Nat) (s : Raw) : Raw :=
  match s with
  | '-' :: r => '-' :: (List.replicate (width - 1 - r.length) '0' ++ r)
  | r => List.replicate (width - r.length) '0' ++ r

/-- A number with so many digits behind the point. -/
def withPlaces (places : Nat) (n : Int) : Raw :=
  let digits := padded (places + 1) (toString n.natAbs).toList
  let whole := digits.take (digits.length - places)
  let part := digits.drop (digits.length - places)
  (if n < 0 then ['-'] else []) ++ whole ++ if places = 0 then [] else '.' :: part

end Calculation

open Calculation in
/-- Writes the value of a calculation. -/
def expr : Utility := fun j =>
  let args := match j.arguments with
    | ['-', '-'] :: rest => rest
    | args => args
  if args.isEmpty then (j.misused "missing operand").ending 2
  else
    match (whole (args.length + 1)).run (args, []) with
    | .error m => j.fails 2 m
    | .ok (v, [], _) => (j.writes (v ++ ['\n'])).ending (if isTrue v then 0 else 1)
    | .ok (_, a :: _, _) =>
      j.fails 2 ("syntax error: unexpected argument '" ++ String.ofList a ++ "'")

open Calculation in
/-- Writes numbers one after the other. -/
def seq : Utility := fun j =>
  let isNumber (a : Raw) : Bool := (decimal? a).isSome
  let rec cut : List Raw → (Option Raw × Bool) × List Raw × Option String
    | [] => ((none, false), [], none)
    | a :: rest =>
      if isNumber a then ((none, false), a :: rest, none)
      else match a, rest with
        | ['-', '-'], rest => ((none, false), rest, none)
        | ['-', 's'], s :: rest => let r := cut rest; ((r.1.1.or (some s), r.1.2), r.2)
        | '-' :: 's' :: s, rest => let r := cut rest; ((r.1.1.or (some s), r.1.2), r.2)
        | ['-', 'w'], rest => let r := cut rest; ((r.1.1, true), r.2)
        | '-' :: c :: _, _ => ((none, false), [], some ("invalid option -- '" ++ c.toString ++ "'"))
        | a, rest => ((none, false), a :: rest, none)
  let ((separator, wide), operands, fault) := cut j.arguments
  match fault, operands.find? (!isNumber ·), operands.filterMap decimal? with
  | some m, _, _ => j.misused m
  | none, some a, _ => j.misused ("invalid floating point argument: '" ++ String.ofList a ++ "'")
  | none, none, numbers =>
    let run (a step b : Int × Nat) : Effect :=
      let places := max a.2 step.2
      let finest := max places b.2
      let scaled (n : Int × Nat) : Int := n.1 * Nat.pow 10 (finest - n.2)
      let (first, by_, last) := (scaled a, scaled step, scaled b)
      if by_ = 0 then j.misused "invalid Zero increment value: '0'"
      else
        let count := if (by_ < 0 ∧ first < last) ∨ (0 < by_ ∧ last < first) then 0
          else ((last - first).tdiv by_).toNat + 1
        let shown (n : Int) : Raw := withPlaces places (n.tdiv (Nat.pow 10 (finest - places)))
        let rows := (List.range count).map fun (i : Nat) => shown (first + i * by_)
        let width := max (shown first).length ((rows.getLast?.map List.length).getD 0)
        let rows := if wide then rows.map (padded width) else rows
        let between := separator.getD ['\n']
        if rows.isEmpty then j.nothing else j.writes ((rows.intersperse between).flatten ++ ['\n'])
    match numbers with
    | [b] => run (1, 0) (1, 0) b
    | [a, b] => run a (1, 0) b
    | [a, s, b] => run a s b
    | [] => j.misused "missing operand"
    | _ => j.misused ("extra operand '" ++ String.ofList (operands.getD 3 []) ++ "'")

end ClarityCheck.Host

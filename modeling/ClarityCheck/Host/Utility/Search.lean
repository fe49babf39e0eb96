import ClarityCheck.Host.Utility.Expression
import ClarityCheck.Host.Utility.Lines
import ClarityCheck.Text.Cut

/-!
# Searching texts

Searching texts for lines that expressions fit.
-/

namespace ClarityCheck.Host.Search

/-- What lines are selected by. -/
structure Query where
  expressions : List Expression
  folded : Bool
  /-- A fit counts only as a whole word or as a whole line. -/
  wholeWord : Bool
  wholeLine : Bool
  inverted : Bool

namespace Query

/-- A fit counts. -/
def accepts (q : Query) (text : Array Char) (f : Expression.Fit) : Bool :=
  let isOutside (c : Option Char) : Bool := !c.any Expression.isWordChar
  if q.wholeLine then f.start = 0 && f.trace.place = text.size
  else if q.wholeWord then
    (f.start = 0 || isOutside text[f.start - 1]?) && isOutside text[f.trace.place]?
  else true

/-- The first fit in a line from a place on, of several the longest. -/
def find? (q : Query) (text : Array Char) (start : Nat) : Option Expression.Fit :=
  let fits := q.expressions.filterMap fun e =>
    Expression.findFrom? q.folded e text (q.accepts text) start
  fits.foldl (fun best f =>
    match best with
    | none => some f
    | some b =>
      if f.start < b.start ∨ (f.start = b.start ∧ b.trace.place < f.trace.place) then some f
      else some b) none

/-- A line is selected. -/
def selects (q : Query) (line : Raw) : Bool := (q.find? line.toArray 0).isSome != q.inverted

/-- The parts of a line that are fitted, in at most `fuel` steps from a place on. -/
def parts (q : Query) (line : Raw) : (fuel start : Nat) → List Raw
  | 0, _ => []
  | fuel + 1, start =>
    match q.find? line.toArray start with
    | none => []
    | some f =>
      if f.trace.place = f.start then parts q line fuel (f.start + 1)
      else (line.drop f.start).take (f.trace.place - f.start) :: parts q line fuel f.trace.place

end Query

/-- How selected lines are shown. -/
structure Display where
  /-- Texts that hold a NUL are shown like others. -/
  asText : Bool
  named : Bool
  numbered : Bool
  onlyParts : Bool
  before : Nat
  after : Nat
  most : Option Nat

/-- What stands in front of a line: the name of its text and its number. -/
def Display.label (d : Display) (name : Raw) (number : Nat) (sign : Char) : Raw :=
  (if d.named then name ++ [sign] else []) ++
    (if d.numbered then (toString number).toList ++ [sign] else [])

/-- The numbers of the lines that are shown with the selected ones, in runs without gaps. -/
def ranges (before after count : Nat) : List Nat → List (Nat × Nat)
  | [] => []
  | n :: ns =>
    let first := n - before
    let last := min (n + after) (count - 1)
    match ranges before after count ns with
    | (a, b) :: rs =>
      if a ≤ last + 1 then (first, max last b) :: rs else (first, last) :: (a, b) :: rs
    | [] => [(first, last)]

/-- Shows the selected lines of a text. -/
def Display.lines (d : Display) (q : Query) (name : Raw) (lines : Array Raw) (selected : List Nat) :
    Raw :=
  if d.onlyParts then
    selected.flatMap fun n =>
      if q.inverted then []
      else
        let line := lines.getD n []
        (q.parts line (line.length + 1) 0).flatMap fun p =>
          d.label name (n + 1) ':' ++ p ++ ['\n']
  else
    let runs := (ranges d.before d.after lines.size selected).map fun r =>
      (List.range' r.1 (r.2 + 1 - r.1)).flatMap fun n =>
        d.label name (n + 1) (if selected.contains n then ':' else '-') ++ lines.getD n [] ++ ['\n']
    if d.before + d.after = 0 then runs.flatten else (runs.intersperse "--\n".toList).flatten

/-- What the search is asked to tell. -/
inductive Wanted where
  | lines
  | count
  /-- The names of the texts in which lines are selected, or of the others. -/
  | names (selected : Bool)
  | nothing
  deriving DecidableEq, Repr

/-- Searches one text: what is written, and whether a line was selected. -/
def searchText (q : Query) (d : Display) (w : Wanted) (name text : Raw) : Raw × Bool :=
  let lines := linesOf text
  let numbers := (List.range lines.length).zip lines |>.filter (fun l => q.selects l.2) |>.map (·.1)
  let numbers := match d.most with
    | some n => numbers.take n
    | none => numbers
  let found := !numbers.isEmpty
  let shown := match w with
    | .lines =>
      if text.contains '\x00' && !d.asText then [] else d.lines q name lines.toArray numbers
    | .count =>
      (if d.named then name ++ [':'] else []) ++ (toString numbers.length).toList ++ ['\n']
    | .names selected => if found = selected then name ++ ['\n'] else []
    | .nothing => []
  (shown, found)

/-- The letters of the options. -/
def letters : Job.Letters :=
  ("cvinolLhHsqEFGPwxaryZT".toList.map fun c => (c, false)) ++
    ("emABC".toList.map fun c => (c, true))

/-- The long names of options and their letters. -/
def longNames : List (String × Char) :=
  [("count", 'c'), ("invert-match", 'v'), ("ignore-case", 'i'), ("line-number", 'n'),
    ("only-matching", 'o'), ("files-with-matches", 'l'), ("files-without-match", 'L'),
    ("no-filename", 'h'), ("with-filename", 'H'), ("no-messages", 's'), ("quiet", 'q'),
    ("silent", 'q'), ("extended-regexp", 'E'), ("fixed-strings", 'F'), ("basic-regexp", 'G'),
    ("perl-regexp", 'P'), ("word-regexp", 'w'), ("line-regexp", 'x'), ("text", 'a'),
    ("regexp", 'e'), ("max-count", 'm'), ("after-context", 'A'), ("before-context", 'B'),
    ("context", 'C')]

/-- The lines of an argument, of which there is always one. -/
def patternLines (s : Raw) : List Raw := Text.splitOn '\n' s

/-- An expression is the name of a class without the brackets around it. -/
def isBareClass (s : Raw) : Bool := s.take 2 = ['[', ':'] && s.reverse.take 2 = [']', ':']

/-- Reads the expressions of a search. -/
def expressionsOf (a : Job.Arguments) (patterns : List Raw) : Except String (List Expression) :=
  patterns.mapM fun p =>
    if a.has 'F' then .ok (Expression.literal p)
    else if isBareClass p then
      .error ("character class syntax is [[:space:]], not [:space:]")
    else Expression.read ⟨a.has 'E' || a.has 'P', a.has 'P', false⟩ p

/-- The number that belongs to an option. -/
def countOf (a : Job.Arguments) (letter : Char) : Option Nat := (a.value? letter).bind Raw.nat?

end Search

open Search in
/-- Searches what its operands name. -/
def grep : Utility := fun j =>
  let a := Job.Arguments.read letters true (Job.Arguments.shortened longNames j.arguments)
  let usage := "Usage: grep [OPTION]... PATTERNS [FILE]...\n"
  let misuse (lead : List (Nat × Raw)) : Effect :=
    { j.nothing with
      written :=
        lead ++ [(2, usage.toList), (2, "Try 'grep --help' for more information.\n".toList)]
      status := 2 }
  match a.problem with
  | some m => misuse [j.complaint m.toList]
  | none =>
    let given := a.values 'e'
    let (patterns, operands) := match given, a.operands with
      | [], p :: rest => ([p], rest)
      | ps, rest => (ps, rest)
    if patterns.isEmpty then misuse []
    else
      match expressionsOf a (patterns.flatMap patternLines) with
      | .error m => j.fails 2 m
      | .ok expressions =>
        let q : Query := ⟨expressions, a.has 'i' || a.has 'y', a.has 'w', a.has 'x', a.has 'v'⟩
        let around := (countOf a 'C').getD 0
        let d : Display :=
          { asText := a.has 'a'
            named := (1 < operands.length || a.has 'H') && !a.has 'h'
            numbered := a.has 'n'
            onlyParts := a.has 'o'
            before := (countOf a 'B').getD around
            after := (countOf a 'A').getD around
            most := countOf a 'm' }
        let w : Wanted :=
          if a.has 'q' then .nothing
          else if a.has 'l' then .names true
          else if a.has 'L' then .names false
          else if a.has 'c' then .count
          else .lines
        let stopsEarly := w = .nothing || w = .names true || d.most.isSome
        let operands := if operands.isEmpty then [['-']] else operands
        let step (r : Effect × Bool) (p : Raw) : Effect × Bool :=
          let (e, found) := r
          match e.span, j.source p with
          | .takes _, .error err =>
            let told := if a.has 's' then [] else [j.complaint (Job.plainly p err)]
            ({ e with written := e.written ++ told, status := 2 }, found)
          | .takes _, .ok s =>
            let name := if p = ['-'] then "(standard input)".toList else p
            let (shown, here) := searchText q d w name s.known
            let e := if shown.isEmpty then e else e.output shown
            let e := if here && w = .lines && s.known.contains '\x00' && !d.asText then
                { e with written := e.written ++
                    [j.complaint (name ++ ": binary file matches".toList)] }
              else e
            let e := if p = ['-'] then { e with input := { s with text := [] } } else e
            let e := if s.after = .ends || (here && stopsEarly) then e
              else { e with span := s.span [] }
            (e, found || here)
          | _, _ => (e, found)
        let (e, found) := operands.foldl step (j.nothing, false)
        if found && (e.status = 0 || w = .nothing) then e.ending 0
        else if e.status = 0 then e.ending 1
        else e

end ClarityCheck.Host

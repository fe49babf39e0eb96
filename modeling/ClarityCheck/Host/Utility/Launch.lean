import ClarityCheck.Host.Utility.Lines
import ClarityCheck.Text.Cut

/-!
# Utilities that start programs

Utilities that start the program which their arguments name, in another environment, for a limited
time, or with arguments that they read.
-/

namespace ClarityCheck.Host

/-! ## Environments -/

/-- Sets a variable in the place where it stands, or behind all others. -/
def withVariable (name value : Raw) : List (Raw × Raw) → List (Raw × Raw)
  | [] => [(name, value)]
  | (n, v) :: rest =>
    if n == name then (name, value) :: rest else (n, v) :: withVariable name value rest

/-- Variables as lines. -/
def variableLines (finish : Char) (vs : List (Raw × Raw)) : Raw :=
  vs.flatMap fun v => v.1 ++ '=' :: v.2 ++ [finish]

/-- A program in the place of the utility. -/
def Job.successor (j : Job) (arguments : List Raw) : Successor where
  environment := j.environment
  directory := none
  arguments
  limit := none
  about := j.label ++ ": failed to run command '".toList ++ arguments.headD [] ++ ['\'']
  hint := []
  answer := id

/-- A misuse with a status of its own. -/
def Job.misusedWith (j : Job) (status : Nat) (message : String) : Effect :=
  (j.misused message).ending status

/-- Says how to learn about the utility. -/
def Job.advises (j : Job) (status : Nat) : Effect :=
  { j.nothing with
    written := [(2, "Try '".toList ++ j.label ++ " --help' for more information.\n".toList)]
    status }

/-- The milliseconds of a span that is written as a number of seconds with an optional unit. -/
def spanOf? (s : Raw) : Option Nat :=
  let (factor, s) := match s.getLast? with
    | some 's' => (1, s.dropLast)
    | some 'm' => (60, s.dropLast)
    | some 'h' => (3600, s.dropLast)
    | some 'd' => (86400, s.dropLast)
    | _ => (1, s)
  let whole := s.takeWhile (· ≠ '.')
  let fraction := (s.dropWhile (· ≠ '.')).drop 1
  let thousandths := (fraction ++ "000".toList).take 3
  if whole = [] ∧ fraction = [] then none
  else
    match Raw.nat? (if whole = [] then ['0'] else whole), Raw.nat? thousandths with
    | some n, some m => some ((n * 1000 + m) * factor)
    | _, _ => none

namespace Launch

/-! ## Other environments -/

/-- Splits a text into arguments at blanks, in at most `fuel` steps. Quotation marks hold arguments
together, and a backslash quotes a character. -/
def splitFrom : (fuel : Nat) → (mark : Option Char) → (current : Option Raw) → Raw → List Raw
  | 0, _, current, _ => current.toList
  | _, _, current, [] => current.toList
  | fuel + 1, mark, current, c :: s =>
    let add (t : Raw) (r : Raw) (mark : Option Char) : List Raw :=
      splitFrom fuel mark (some (current.getD [] ++ t)) r
    match mark, c, s with
    | some m, c, s =>
      if c = m then add [] s none
      else if c = '\\' ∧ (s.head? = some m ∨ s.head? = some '\\')
        then add (s.take 1) (s.drop 1) mark
      else add [c] s mark
    | none, '\\', d :: r =>
      match d with
      | '_' => current.toList ++ splitFrom fuel none none r
      | 'n' => add ['\n'] r none
      | 't' => add ['\t'] r none
      | 'c' => current.toList
      | d => add [d] r none
    | none, c, s =>
      if c = '\'' ∨ c = '"' then add [] s (some c)
      else if Raw.isSpace c then current.toList ++ splitFrom fuel none none s
      else if c = '#' ∧ current.isNone then []
      else add [c] s none

/-- Splits a text into arguments. -/
def split (s : Raw) : List Raw := splitFrom (s.length + 1) none none s

/-- How a program is to be started. -/
structure Setting where
  environment : List (Raw × Raw)
  directory : Option Raw
  nulEnds : Bool

/-- Reads the options of `env`, of which there are at most `fuel`: the setting and what follows
them, or a problem. -/
def options : (fuel : Nat) → Setting → List Raw → Except String (Setting × List Raw)
  | 0, st, args => .ok (st, args)
  | _, st, [] => .ok (st, [])
  | fuel + 1, st, a :: rest =>
    let unset (name : Raw) : Setting :=
      { st with environment := st.environment.filter (·.1 ≠ name) }
    let name := String.ofList (a.takeWhile (· ≠ '='))
    let value := (a.dropWhile (· ≠ '=')).drop 1
    match a, name with
    | _, "--" => .ok (st, rest)
    | _, "--ignore-environment" => options fuel { st with environment := [] } rest
    | _, "--null" => options fuel { st with nulEnds := true } rest
    | _, "--debug" => options fuel st rest
    | _, "--unset" => options fuel (unset value) rest
    | _, "--chdir" => options fuel { st with directory := some value } rest
    | _, "--split-string" => options fuel st (split value ++ rest)
    | '-' :: '-' :: s, _ => .error ("unrecognized option '--" ++ String.ofList s ++ "'")
    | ['-'], _ => .ok ({ st with environment := [] }, rest)
    | '-' :: c :: s, _ =>
      let again (st : Setting) : Except String (Setting × List Raw) :=
        options fuel st (if s.isEmpty then rest else ('-' :: s) :: rest)
      let withValue (act : Raw → List Raw → Except String (Setting × List Raw)) :
          Except String (Setting × List Raw) :=
        match s, rest with
        | [], [] => .error ("option requires an argument -- '" ++ c.toString ++ "'")
        | [], v :: rest => act v rest
        | v, rest => act v rest
      match c with
      | 'i' => again { st with environment := [] }
      | '0' => again { st with nulEnds := true }
      | 'v' => again st
      | 'u' => withValue fun v rest => options fuel (unset v) rest
      | 'C' => withValue fun v rest => options fuel { st with directory := some v } rest
      | 'S' => withValue fun v rest => options fuel st (split v ++ rest)
      | c => .error ("invalid option -- '" ++ c.toString ++ "'")
    | _, _ => .ok (st, a :: rest)

end Launch

open Launch in
/-- Starts a program in another environment, or shows the environment. -/
def env : Utility := fun j =>
  let width := j.arguments.flatten.length + j.arguments.length + 1
  match options width ⟨j.environment, none, false⟩ j.arguments with
  | .error m => j.misusedWith 125 m
  | .ok (st, rest) =>
    let assignments := rest.takeWhile (·.contains '=')
    let environment := assignments.foldl
      (fun vs a => withVariable (a.takeWhile (· ≠ '=')) ((a.dropWhile (· ≠ '=')).drop 1) vs)
      st.environment
    match rest.drop assignments.length with
    | [] => j.writes (variableLines (if st.nulEnds then '\x00' else '\n') environment)
    | name :: arguments =>
      let failure : Option (Raw × SystemError) := st.directory.bind fun d =>
        match j.files.stat (Raw.path d) with
        | .ok .directory => none
        | .ok _ => some (d, .notDirectory)
        | .error e => some (d, e)
      match failure with
      | some (d, e) =>
        j.fails 125 ("cannot change directory to '" ++ String.ofList d ++ "': "
          ++ String.ofList (Job.reason e))
      | none =>
        let hint := if name.any Raw.isSpace
          then j.label ++ ": use -[v]S to pass options in shebang lines\n".toList else []
        { j.nothing with successors := [{ j.successor (name :: arguments) with
            environment, hint
            directory := st.directory.map Raw.path
            about := j.label ++ ": '".toList ++ name ++ ['\''] }] }

/-! ## Limited time -/

/-- Starts a program and stops it after a time. -/
def timeout : Utility := fun j =>
  let names := [("signal", 's'), ("kill-after", 'k'), ("preserve-status", 'p'), ("foreground", 'f'),
    ("verbose", 'v')]
  let letters := [('s', true), ('k', true), ('p', false), ('f', false), ('v', false)]
  let a := Job.Arguments.read letters false (Job.Arguments.shortened names j.arguments)
  match a.problem, a.operands with
  | some m, _ => j.misusedWith 125 m
  | none, time :: command :: rest =>
    match spanOf? time with
    | none => j.misusedWith 125 ("invalid time interval '" ++ String.ofList time ++ "'")
    | some ms =>
      let kills := a.value? 's' = some "KILL".toList ∨ a.value? 's' = some "9".toList
      let limit : Limit :=
        ⟨ms, if a.has 'p' then 143 else 124, if kills then some 9 else none⟩
      { j.nothing with successors := [{ j.successor (command :: rest) with
          limit := if ms = 0 then none else some limit }] }
  | none, _ => j.advises 125

/-- Starts a program that goes on when its user leaves. -/
def nohup : Utility := fun j =>
  match j.arguments with
  | [] => j.misusedWith 125 "missing operand"
  | args => { j.nothing with successors := [j.successor args] }

/-- Starts a program that lets others go first. -/
def nice : Utility := fun j =>
  let a := Job.Arguments.read [('n', true)] false j.arguments
  match a.problem, a.operands with
  | some m, _ => j.misusedWith 125 m
  | none, [] => j.writes "0\n".toList
  | none, name :: rest =>
    { j.nothing with successors := [{ j.successor (name :: rest) with
        about := j.label ++ ": '".toList ++ name ++ ['\''] }] }

/-! ## Arguments from a text -/

namespace Launch

/-- Cuts a list into parts of a length, in at most `fuel` steps. -/
def chunks {α : Type} (n : Nat) : (fuel : Nat) → List α → List (List α)
  | 0, xs => [xs]
  | fuel + 1, xs => if xs.length ≤ n then [xs] else xs.take n :: chunks n fuel (xs.drop n)

/-- The arguments that a text writes, in at most `fuel` steps. Quotation marks hold them together.
-/
def words : (fuel : Nat) → (mark : Option Char) → (current : Option Raw) → Raw →
    Except String (List Raw)
  | 0, _, current, _ => .ok current.toList
  | _, none, current, [] => .ok current.toList
  | _, some m, _, [] => .error ("unmatched " ++ (if m = '"' then "double" else "single")
      ++ " quote; by default quotes are special to xargs unless you use the -0 option")
  | fuel + 1, mark, current, c :: s =>
    let add (t r : Raw) (mark : Option Char) : Except String (List Raw) :=
      words fuel mark (some (current.getD [] ++ t)) r
    match mark with
    | some m => if c = m then add [] s none else if c = '\n' then words fuel mark current []
      else add [c] s mark
    | none =>
      if c = '"' ∨ c = '\'' then add [] s (some c)
      else if c = '\\' then add (s.take 1) (s.drop 1) none
      else if c = '\n' ∨ c = ' ' ∨ c = '\t' then
        (words fuel none none s).map (current.toList ++ ·)
      else add [c] s none

/-- Puts a text in the place of another one, in at most `fuel` steps. -/
def replaceAll (old new : Raw) : (fuel : Nat) → Raw → Raw
  | 0, s => s
  | _, [] => []
  | fuel + 1, c :: s =>
    if old ≠ [] ∧ (c :: s).take old.length = old then
      new ++ replaceAll old new fuel ((c :: s).drop old.length)
    else c :: replaceAll old new fuel s

/-- The status after a program that was started with arguments from a text. -/
def answerOfMany (status : Nat) : Nat :=
  if status = 0 then 0 else if status = 126 ∨ status = 127 then status else 123

end Launch

open Launch in
/-- Starts a program with arguments from the input. -/
def xargs : Utility := fun j =>
  let names := [("null", '0'), ("no-run-if-empty", 'r'), ("max-args", 'n'), ("delimiter", 'd'),
    ("replace", 'I'), ("max-lines", 'L'), ("verbose", 't'), ("max-procs", 'P')]
  let letters := [('0', false), ('r', false), ('t', false), ('n', true), ('d', true), ('I', true),
    ('L', true), ('P', true), ('s', true), ('x', false)]
  let a := Job.Arguments.read letters false (Job.Arguments.shortened names j.arguments)
  let command := if a.operands.isEmpty then ["echo".toList] else a.operands
  let start (arguments : List Raw) : Successor :=
    { j.successor arguments with
      about := j.label ++ ": ".toList ++ arguments.headD [], answer := answerOfMany }
  match a.problem, j.input.whole? with
  | some m, _ => j.misused m
  | none, none => { j.nothing with span := j.input.span [] }
  | none, some text =>
    let cut (d : Char) : List Raw :=
      let parts := Text.splitOn d text
      if parts.getLast? = some [] then parts.dropLast else parts
    let items : Except String (List Raw) :=
      if a.has '0' then .ok (cut '\x00')
      else
        match a.value? 'd' with
        | some ['\\', 'n'] => .ok (cut '\n')
        | some (d :: _) => .ok (cut d)
        | _ =>
          if a.has 'I' then
            .ok ((linesOf text).map (·.dropWhile fun c => c == ' ' || c == '\t') |>.filter (· ≠ []))
          else words (text.length + 1) none none text
    match items with
    | .error m => j.fails 1 m
    | .ok items =>
      let e := { j.nothing with input := { j.input with text := [] } }
      match a.value? 'I', (a.value? 'L').bind Raw.nat? with
      | some mark, _ =>
        { e with successors := items.map fun i =>
            start (command.map fun w => replaceAll mark i (w.length + 1) w) }
      | none, some n =>
        let groups := chunks (max n 1) text.length (linesOf text |>.filter (· ≠ []))
        { e with successors := groups.filterMap fun g =>
            match words (text.length + 1) none none (joinLines g) with
            | .ok ws => some (start (command ++ ws))
            | .error _ => none }
      | none, none =>
        if items.isEmpty && a.has 'r' then e
        else
          let size := ((a.value? 'n').bind Raw.nat?).getD (items.length + 1)
          { e with successors :=
              (chunks (max size 1) items.length items).map fun g => start (command ++ g) }

end ClarityCheck.Host

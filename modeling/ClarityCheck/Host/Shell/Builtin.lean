import ClarityCheck.Host.Program
import ClarityCheck.Host.Shell.Expansion
import ClarityCheck.Host.Shell.Signal

/-!
# Commands of the shell

Commands that change the shell itself: its end, its directory, its variables and its arguments. None
of them runs a script.
-/

namespace ClarityCheck.Host.Shell

/-- A command of the shell. -/
abbrev Builtin := List Raw → Deed Unit

namespace Builtin

/-! ## Numbers -/

/-- The largest number that arguments may write. -/
def largestNumber : Nat := 2147483647

/-- The number that an argument writes. -/
def number (s : Raw) : Deed Nat := do
  match Raw.nat? s with
  | some n => if n ≤ largestNumber then return n else Deed.fail ("Illegal number: ".toList ++ s)
  | none => Deed.fail ("Illegal number: ".toList ++ s)

/-! ## The end of scripts, functions and loops -/

/-- Ends the shell. The answer to a signal ends it with the status in front of the answer. -/
def exit : Builtin := fun args => do
  match args with
  | [] =>
    if let some n := (← get).saved then Deed.status n
    throw .exits
  | a :: _ => Deed.status ((← number a) % 256); throw .exits

/-- Ends the function or the file that is run. -/
def «return» : Builtin := fun args => do
  match args with
  | [] => throw .returns
  | a :: _ => Deed.status ((← number a) % 256); throw .returns

/-- Ends some of the loops that are run, or goes on with the next round of one. -/
def leave (ending : Nat → Ending) : Builtin := fun args => do
  let n ← match args with
    | [] => pure 1
    | a :: _ => do
      let n ← number a
      if n = 0 then Deed.fail ("Illegal number: ".toList ++ a) else pure n
  Deed.status 0
  let loops := (← get).loops
  if 0 < loops then throw (ending (min n loops))

/-! ## Directories -/

/-- A path without detours, in names alone. -/
def straight (names : List FileName) : List FileName :=
  names.foldl (fun ns n => if n = Path.dotDot then ns.dropLast else ns ++ [n]) []

/-- Goes to another directory. The way back is kept as it was named. -/
def cd : Builtin := fun args => do
  let t ← get
  let args := args.filter fun a => a ≠ "-L".toList && a ≠ "-P".toList
  let (target, shows) := match args with
    | [] => (t.valueOf "HOME", false)
    | ['-'] :: _ => (t.valueOf "OLDPWD", true)
    | a :: _ => (a, false)
  let here := t.valueOf "PWD"
  let wanted := if target = [] then here else target
  let path := Raw.path wanted
  let names := straight
    (if path.isAbsolute then path.names else (Raw.path here).names ++ path.names)
  let place := match names with
    | [] => ['/']
    | ns => ns.flatMap fun n => '/' :: Raw.ofBytes n
  let step (p : Raw) : Option Location :=
    match t.files.locate true (Raw.path p) with
    | .ok l => if t.files.hasDirectory l then some l else none
    | .error _ => none
  match (step wanted).bind fun _ => step place with
  | none => Deed.fail ("can't cd to ".toList ++ target)
  | some l =>
    modify fun t => { t with files := { t.files with directory := l } }
    modify fun t => t.assign "OLDPWD".toList here
    modify fun t => t.assign "PWD".toList place
    Deed.status 0
    if shows then modify fun t => t.write 1 (place ++ ['\n'])

/-- Writes the name of the current directory, or its path without links. -/
def pwd : Builtin := fun args => do
  modify fun t =>
    let place := if args = ["-P".toList] then Raw.ofPath t.files.currentPath else t.valueOf "PWD"
    (t.write 1 (place ++ ['\n'])).withStatus 0

/-! ## Variables -/

/-- A value between quotation marks. -/
def quoted (s : Raw) : Raw :=
  '\'' :: (s.flatMap fun c => if c = '\'' then "'\"'\"'".toList else [c]) ++ ['\'']

/-- Characters in the order of their numbers. -/
def rawLe : Raw → Raw → Bool
  | [], _ => true
  | _ :: _, [] => false
  | a :: s, b :: r => a < b || (a == b && rawLe s r)

/-- Shows variables in the order of their names, each behind a word. -/
def showVariables (lead : String) (pick : Variable → Bool) : Deed Unit := modify fun t =>
  let shown := (t.bindings.filter pick).mergeSort fun a b => rawLe a.name b.name
  let rows := shown.flatMap fun v =>
    lead.toList ++ v.name ++ (match v.value with
      | some s => '=' :: quoted s
      | none => []) ++ ['\n']
  (t.write 1 rows).withStatus 0

/-- Splits an argument into a name and the value assigned to it. -/
def cutAssignment (a : Raw) : Raw × Option Raw :=
  match a.dropWhile (· ≠ '=') with
  | _ :: value => (a.takeWhile (· ≠ '='), some value)
  | [] => (a, none)

/-- Sets variables and marks them. -/
def declare (lead : String) (pick : Variable → Bool) (mark : Variable → Variable) : Builtin :=
  fun args => do
    match args.filter (· ≠ "-p".toList) with
    | [] => showVariables (lead ++ " ") pick
    | args =>
      args.forM fun a => do
        let (name, value) := cutAssignment a
        if !isName name then Deed.fail (name ++ ": bad variable name".toList)
        match value with
        | some s => setVariable name s
        | none => pure ()
        modify fun t =>
          t.putVariable (mark ((t.lookup? name).getD ⟨name, none, false, false⟩))
      Deed.status 0

/-- Lets programs see variables. -/
def «export» : Builtin := declare "export" (·.exported) fun v => { v with exported := true }

/-- Keeps variables from changing. -/
def «readonly» : Builtin := declare "readonly" (·.constant) fun v => { v with constant := true }

/-- Keeps variables as they are outside the function that is run. -/
def «local» : Builtin := fun args => do
  if (← get).depth = 0 then Deed.fail "not in a function".toList
  args.forM fun a => do
    let (name, value) := cutAssignment a
    if !isName name then Deed.fail (name ++ ": bad variable name".toList)
    modify fun t =>
      if t.locals.any (·.name == name) then t
      else { t with locals := (t.lookup? name).getD ⟨name, none, false, false⟩ :: t.locals }
    match value with
    | some s => setVariable name s
    | none => pure ()
  Deed.status 0

/-- Forgets variables or functions. -/
def unset : Builtin := fun args => do
  let functions := args.head? = some "-f".toList
  let names := args.filter fun a => a ≠ "-f".toList && a ≠ "-v".toList
  names.forM fun n => do
    if functions then modify fun t => { t with functions := t.functions.filter (·.1 ≠ n) }
    else
      if !isName n then Deed.fail (n ++ ": bad variable name".toList)
      match (← get).lookup? n with
      | some v =>
        if v.constant then Deed.fail (n ++ ": is read only".toList)
        else modify fun t => { t with bindings := t.bindings.filter (·.name ≠ n) }
      | none => modify fun t => { t with functions := t.functions.filter (·.1 ≠ n) }
  Deed.status 0

/-! ## Arguments and rules -/

/-- Drops the first arguments. -/
def shift : Builtin := fun args => do
  let n ← match args with
    | [] => pure 1
    | a :: _ => number a
  if (← get).arguments.length < n then Deed.fail "can't shift that many".toList
  modify fun t => { t with arguments := t.arguments.drop n, status := 0 }

/-- The rules of a shell by their names and letters, in the order in which they are shown. -/
def ruleNames : List (String × Char) :=
  [("errexit", 'e'), ("noglob", 'f'), ("ignoreeof", 'I'), ("interactive", 'i'), ("monitor", 'm'),
    ("noexec", 'n'), ("stdin", 's'), ("xtrace", 'x'), ("verbose", 'v'), ("vi", 'V'), ("emacs", 'E'),
    ("noclobber", 'C'), ("allexport", 'a'), ("notify", 'b'), ("nounset", 'u'), ("privileged", 'p'),
    ("nolog", '\x01'), ("debug", '\x02')]

/-- Follows a rule from now on, or does not. -/
def setRule (on : Bool) (c : Char) (t : Task) : Task :=
  let others := t.rules.filter (· ≠ c)
  let letters := ruleNames.map (·.2)
  { t with rules := if on then letters.filter fun d => d = c || others.contains d else others }

/-- Reads the rules among arguments and gives back what follows them. The second part tells that two
dashes or a single one came last. -/
def readRules : List Raw → Deed (List Raw × Bool)
  | [] => return ([], false)
  | ['-', '-'] :: rest => return (rest, true)
  | ['-'] :: rest => return (rest, false)
  | ('-' :: 'o' :: []) :: name :: rest => do named true name; readRules rest
  | ('+' :: 'o' :: []) :: name :: rest => do named false name; readRules rest
  | ('-' :: letters) :: rest => do letters.forM (one true '-'); readRules rest
  | ('+' :: letters) :: rest => do letters.forM (one false '+'); readRules rest
  | rest => return (rest, false)
where
  named (on : Bool) (name : Raw) : Deed Unit := do
    match ruleNames.lookup (String.ofList name) with
    | some c => modify (setRule on c)
    | none => Deed.fail ("Illegal option -o ".toList ++ name)
  one (on : Bool) (sign c : Char) : Deed Unit := do
    if c.toNat < 0x20 || !(ruleNames.map (·.2)).contains c then
      Deed.fail ("Illegal option ".toList ++ [sign, c])
    else modify (setRule on c)

/-- The rules and whether each of them is followed, as a table. -/
def ruleTable (t : Task) : Raw :=
  "Current option settings\n".toList ++ ruleNames.flatMap fun r =>
    r.1.toList ++ List.replicate (16 - r.1.length) ' '
      ++ (if t.rules.contains r.2 then "on\n" else "off\n").toList

/-- The rules as commands that bring them about. -/
def ruleCommands (t : Task) : Raw :=
  ruleNames.flatMap fun r =>
    ((if t.rules.contains r.2 then "set -o " else "set +o ") ++ r.1 ++ "\n").toList

/-- Sets arguments and the rules that the shell follows. -/
def set : Builtin := fun args => do
  Deed.status 0
  if args.isEmpty then showVariables "" (·.value.isSome)
  else if args = ["-o".toList] then modify fun t => t.write 1 (ruleTable t)
  else if args = ["+o".toList] then modify fun t => t.write 1 (ruleCommands t)
  else
    let (rest, final) ← readRules args
    if final || !rest.isEmpty then
      modify fun t => { t with arguments := rest, optionPlace := 0 }

/-! ## Reading -/

/-- Reads a line, in which a backslash quotes what follows it and joins lines unless the text is
taken as it is: the line backwards, whether its end was found, and what follows it. -/
def readLine (raw : Bool) (line : Field) : Raw → Field × Bool × Raw
  | [] => (line, false, [])
  | '\n' :: s => (line, true, s)
  | '\\' :: '\n' :: s => if raw then (('\\', false) :: line, true, s) else readLine raw line s
  | '\\' :: c :: s =>
    if raw then readLine raw (('\\', false) :: line) (c :: s)
      else readLine raw ((c, true) :: line) s
  | c :: s => readLine raw ((c, false) :: line) s

/-- Splits a line into so many values, of which the last one takes what remains. -/
def splitLine (separators : Raw) : (count : Nat) → Field → List Raw
  | 0, _ => []
  | count + 1, f =>
    let isSeparator (c : Char × Bool) : Bool := !c.2 && separators.contains c.1
    let isBlank (c : Char × Bool) : Bool := isSeparator c && Piece.isBlank c.1
    let f := f.dropWhile isBlank
    let word := f.takeWhile (!isSeparator ·)
    let behind := (f.dropWhile (!isSeparator ·)).dropWhile isBlank
    let behind := match behind with
      | c :: r => if isSeparator c then r.dropWhile isBlank else c :: r
      | [] => []
    match count with
    | 0 =>
      let rest := if behind.isEmpty then word else (f.reverse.dropWhile isBlank).reverse
      [Field.text rest]
    | count + 1 => Field.text word :: splitLine separators (count + 1) behind

/-- Reads a line into variables. -/
def read : Builtin := fun args => do
  let t ← get
  let raw := args.head? = some "-r".toList
  match if raw then args.drop 1 else args with
  | [] => Deed.fail "arg count".toList
  | names =>
    let source := t.input
    match readLine raw [] (source.withLines 1), source.after with
    | (_, false, _), .goesOn false => throw .never
    | (_, false, _), .goesOn true | (_, false, _), .repeats _ => throw (.spins [])
    | (line, found, rest), _ =>
      let line := line.reverse
      modify (·.withInput { source with text := rest })
      let separators := (t.value? "IFS".toList).getD " \t\n".toList
      let values := splitLine separators names.length line
      (names.zip values).forM fun v => do
        if !isName v.1 then Deed.fail (v.1 ++ ": bad variable name".toList)
        setVariable v.1 (asArgument v.2)
      Deed.status (if found then 0 else 1)

/-- Goes through the options among arguments, one at a time. -/
def getopts : Builtin := fun args => do
  match args with
  | letters :: name :: rest =>
    let t ← get
    let words := if rest.isEmpty then t.arguments else rest
    let index := max 1 ((Raw.nat? (t.valueOf "OPTIND")).getD 1)
    let current := if t.optionPlace = 0 ∨ index < 2 then []
      else ((words[index - 2]?).getD []).drop t.optionPlace
    let quiet := letters.head? = some ':'
    let finish (index place : Nat) (found : Raw) (status : Nat) : Deed Unit := do
      setVariable "OPTIND".toList (toString index).toList
      setVariable name found
      modify fun t => { t with optionPlace := place, status }
    let forget : Deed Unit :=
      modify fun t => { t with bindings := t.bindings.filter (·.name ≠ "OPTARG".toList) }
    let step (c : Char) (s : Raw) (index place : Nat) : Deed Unit := do
      match (letters.dropWhile (· ≠ c)), c == ':' with
      | [], _ | _, true =>
        if quiet then setVariable "OPTARG".toList [c]
        else
          modify (·.write 2 ("Illegal option -".toList ++ [c, '\n']))
          forget
        finish index (if s.isEmpty then 0 else place) ['?'] 0
      | _ :: ':' :: _, false =>
        match s, words[index - 1]? with
        | [], none =>
          if quiet then setVariable "OPTARG".toList [c]
          else
            modify (·.write 2 ("No arg for -".toList ++ c :: " option\n".toList))
            forget
          finish index 0 (if quiet then [':'] else ['?']) 0
        | [], some v => setVariable "OPTARG".toList v; finish (index + 1) 0 [c] 0
        | s, _ => setVariable "OPTARG".toList s; finish index 0 [c] 0
      | _, false =>
        setVariable "OPTARG".toList []
        finish index (if s.isEmpty then 0 else place) [c] 0
    match current with
    | c :: s => step c s index (t.optionPlace + 1)
    | [] =>
      match words[index - 1]? with
      | some ['-', '-'] => finish (index + 1) 0 ['?'] 1
      | some ('-' :: c :: s) => step c s (index + 1) 2
      | _ => finish index 0 ['?'] 1
  | _ => Deed.fail "Usage: getopts optstring var [arg...]".toList

/-! ## Tasks in the background and signals -/

/-- Waits for tasks in the background. -/
def wait : Builtin := fun args => do
  match args with
  | [] =>
    let t ← get
    Deed.goOnAt (t.background.foldl (fun n b => max n b.ends) t.clock)
    Deed.status 0
  | args => args.forM fun a => do
    let t ← get
    match (Raw.nat? a).bind fun n => t.background.find? (·.number == n) with
    | none => Deed.status 127
    | some b =>
      Deed.goOnAt (max t.clock b.ends)
      match b.signal with
      | some n => modify fun t => (t.write 2 (Signal.report n)).withStatus (128 + n)
      | none => Deed.status b.status

/-- Ends a task in the background. -/
def stop (b : Background) (signal : Nat) (t : Task) : Task :=
  if b.ends ≤ t.clock then t
  else
    let ended := { b with ends := t.clock, signal := some signal }
    { t with
      written := t.written.filter fun w => w.writer ≠ b.number || w.time ≤ t.clock
      held := t.held.map fun h => if h.2.2 = b.number then (h.1, t.clock, h.2.2) else h
      background := t.background.map fun c => if c.number = b.number then ended else c }

/-- Sends a signal to the process of a number. -/
def send (signal : Nat) (target : Raw) : Deed Unit := do
  let t ← get
  match Raw.nat? (match target with
    | '-' :: s => s
    | s => s) with
  | none => Deed.fail ("Illegal number: ".toList ++ target)
  | some n =>
    if n = t.number ∨ n = 0 then
      if signal ≠ 0 then modify fun t => { t with signals := t.signals ++ [signal] }
    else
      match t.background.find? (·.number == n) with
      | some b => if Signal.effectOf signal = .kills then modify (stop b signal)
      | none => Deed.complain "No such process\n".toList 1

/-- The usage of `kill`. -/
def killUsage : Raw :=
  "Usage: kill [-s sigspec | -signum | -sigspec] [pid | job]... or\nkill -l [exitstatus]".toList

/-- Sends signals, or lists them. -/
def kill : Builtin := fun args => do
  Deed.status 0
  match args with
  | [['-', 'l']] =>
    modify fun t => t.write 1 (['0', '\n'] ++ (List.range Signal.last).flatMap fun n =>
      (Signal.name (n + 1)).toList ++ ['\n'])
  | ['-', 'l'] :: a :: _ =>
    let n ← number a
    let n := if 128 < n then n - 128 else n
    if 0 < n ∧ n ≤ Signal.last then modify fun t => t.write 1 ((Signal.name n).toList ++ ['\n'])
    else Deed.fail ("invalid signal number or exit status: ".toList ++ a)
  | args =>
    let chosen : Option (Option Nat) × List Raw := match args with
      | ['-', 's'] :: s :: rest => (some (Signal.number? s), rest)
      | ['-', '-'] :: rest => (some (some 15), rest)
      | ('-' :: s) :: rest => (some (Signal.number? s), rest)
      | rest => (some (some 15), rest)
    match chosen with
    | (some (some n), targets) =>
      if targets.isEmpty then Deed.fail killUsage else targets.forM (send n)
    | (_, _) =>
      match args with
      | ['-', 's'] :: s :: _ => Deed.fail ("invalid signal number or name: ".toList ++ s)
      | (_ :: c :: _) :: _ => Deed.fail ("Illegal option -".toList ++ [c])
      | _ => Deed.fail killUsage

/-- Says what is done on signals. -/
def trap : Builtin := fun args => do
  Deed.status 0
  match if args.head? = some "--".toList then args.drop 1 else args with
  | [] => modify fun t =>
      let traps := t.traps.mergeSort fun a b => a.1 ≤ b.1
      t.write 1 (traps.flatMap fun a =>
        let name := if a.1 = 0 then "EXIT" else Signal.name a.1
        "trap -- ".toList ++ quoted a.2 ++ ' ' :: name.toList ++ ['\n'])
  | first :: rest =>
    let (action, signals) : Option Raw × List Raw :=
      if rest.isEmpty then (none, [first])
      else if first = ['-'] then (none, rest)
      else if (Raw.nat? first).isSome then (none, first :: rest)
      else (some first, rest)
    let known := signals.takeWhile fun s => (Signal.number? s).isSome
    known.forM fun s => modify fun t =>
      let n := (Signal.number? s).getD 0
      let others := t.traps.filter (·.1 ≠ n)
      { t with traps := match action with
          | some a => (n, a) :: others
          | none => others }
    match signals.drop known.length with
    | s :: _ => modify fun t =>
      (t.write 2 ("trap: ".toList ++ s ++ ": bad trap\n".toList)).withStatus 1
    | [] => pure ()

/-! ## What commands are -/

/-- The commands of the shell that are named where commands are described, apart from special ones.
-/
def plainCommands : List String :=
  ["[", "alias", "bg", "cd", "command", "echo", "false", "fg", "getopts", "hash", "jobs", "kill",
    "printf", "pwd", "read", "test", "true", "type", "ulimit", "umask", "unalias", "wait"]

/-- What a name stands for at the place of a command. -/
inductive Meaning where
  | keyword
  | alias (text : Raw)
  | function
  | special
  | command
  | program (place : Raw)
  | nothing

/-- The meaning of a name. -/
def meaning (t : Task) (name : Raw) : Meaning :=
  if Token.keywords.contains (String.ofList name) then .keyword
  else
    match t.aliases.lookup name with
    | some text => .alias text
    | none =>
      if (t.functions.lookup name).isSome then .function
      else if specialCommands.contains (String.ofList name) then .special
      else if plainCommands.contains (String.ofList name) then .command
      else
        match Program.find t.files (t.value? "PATH".toList) name with
        | .ok (place, _) => .program (Raw.ofPath place)
        | .error _ => .nothing

/-- Describes what names stand for. -/
def type : Builtin := fun args => do
  Deed.status 0
  args.forM fun a => do
    let t ← get
    let tell (s : String) : Deed Unit := modify fun t => t.write 1 (a ++ s.toList ++ ['\n'])
    match meaning t a with
    | .keyword => tell " is a shell keyword"
    | .alias text => tell (" is an alias for " ++ String.ofList text)
    | .function => tell " is a shell function"
    | .special => tell " is a special shell builtin"
    | .command => tell " is a shell builtin"
    | .program place => tell (" is " ++ String.ofList place)
    | .nothing => tell ": not found"; Deed.status 127

/-- Writes what names stand for in short. -/
def whereIs : Builtin := fun args => do
  Deed.status 0
  match args with
  | [] => pure ()
  | a :: _ =>
    let t ← get
    let tell (s : Raw) : Deed Unit := modify fun t => t.write 1 (s ++ ['\n'])
    match meaning t a with
    | .keyword | .function | .special | .command => tell a
    | .alias text => tell ("alias ".toList ++ a ++ '=' :: quoted text)
    | .program place => tell place
    | .nothing => Deed.status 127

/-- Lets words stand for other texts at the place of a command, or shows what they stand for. -/
def «alias» : Builtin := fun args => do
  Deed.status 0
  let shown (a : Raw × Raw) : Raw := a.1 ++ '=' :: quoted a.2 ++ ['\n']
  match args with
  | [] => modify fun t => t.write 1 (t.aliases.flatMap shown)
  | args => args.forM fun a => do
    match cutAssignment a with
    | (name, some value) =>
      modify fun t => { t with aliases := (name, value) :: t.aliases.filter (·.1 ≠ name) }
    | (name, none) =>
      match (← get).aliases.lookup name with
      | some v => modify fun t => t.write 1 (shown (name, v))
      | none =>
        modify fun t => (t.write 2 ("alias: ".toList ++ name ++ " not found\n".toList)).withStatus 1

/-- Lets words stand for themselves again. -/
def unalias : Builtin := fun args => do
  Deed.status 0
  args.forM fun a => do
    if a = "-a".toList then modify fun t => { t with aliases := [] }
    else if ((← get).aliases.lookup a).isSome then
      modify fun t => { t with aliases := t.aliases.filter (·.1 ≠ a) }
    else modify fun t => (t.write 2 ("unalias: ".toList ++ a ++ " not found\n".toList)).withStatus 1

/-- Writes something and succeeds. -/
def tells (s : String) : Builtin := fun _ => modify fun t => (t.write 1 s.toList).withStatus 0

/-- Succeeds. -/
def nothing : Builtin := fun _ => Deed.status 0

/-- The mask of new files, which nothing else depends on. -/
def umask : Builtin := fun args =>
  if args.isEmpty then tells "0022\n" []
  else if args = ["-S".toList] then tells "u=rwx,g=rx,o=rx\n" []
  else nothing []

/-- There are no tasks that could be brought to the front. -/
def noTask : Builtin := fun _ => Deed.fail "No current job".toList

/-- The commands of the shell that need nothing to be run. -/
def table : List (String × Builtin) :=
  [("exit", exit), ("return", «return»), ("cd", cd), ("chdir", cd), ("pwd", pwd),
    ("export", «export»), ("readonly", «readonly»), ("local", «local»), ("unset", unset),
    ("shift", shift), ("set", set),
    ("wait", wait), ("read", read), ("getopts", getopts), ("kill", kill), ("trap", trap),
    ("break", leave .leaves), ("continue", leave .repeats), (":", nothing), ("umask", umask),
    ("ulimit", tells "unlimited\n"),
    ("times", tells "0m0.000000s 0m0.000000s\n0m0.000000s 0m0.000000s\n"),
    ("hash", nothing), ("jobs", nothing), ("fg", noTask), ("bg", noTask), ("type", type),
      ("alias", «alias»), ("unalias", unalias)]

/-- The utilities that the shell has within itself. -/
def utilityTable : List (String × Utility) :=
  [("echo", echo true), ("printf", printf), ("test", test), ("[", bracket), ("true", Job.nothing),
    ("false", fun j => j.nothing.ending 1)]

end Builtin

end ClarityCheck.Host.Shell

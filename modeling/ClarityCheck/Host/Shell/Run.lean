import ClarityCheck.Host.Shell.Pipe

/-!
# Running scripts

What each kind of command does to a task. Every definition here takes the way to run a script as an
argument, so that `run`, which ties them together, is the only one that descends into scripts.
-/

namespace ClarityCheck.Host.Shell

/-- How often one loop goes round before it counts as one that never ends. -/
def roundLimit : Nat := 50000

/-! ## Functions -/

/-- How deep functions may call each other. -/
def functionDepth : Nat := 1000

/-- Puts variables back as they were. -/
def restoreVariables (old : List Variable) (t : Task) : Task :=
  old.foldl (fun t v =>
    if v.value.isNone && !v.exported && !v.constant then
      { t with bindings := t.bindings.filter (·.name ≠ v.name) }
    else t.putVariable v) t

/-- Calls a function: its arguments take the place of those of the shell, and the variables that it
keeps for itself are put back. -/
def callFunction (call : Runner) (tested : Bool) (body : Script) (arguments : List Raw) :
    Deed Unit := do
  let t ← get
  if functionDepth ≤ t.depth then
    Deed.fail ("Maximum function recursion depth (".toList ++ (toString functionDepth).toList
      ++ ") reached".toList)
  set { t with arguments, depth := t.depth + 1, loops := 0, locals := [], optionPlace := 0 }
  let r ← Deed.attempt (call tested body)
  modify fun s =>
    { restoreVariables s.locals s with
      arguments := t.arguments, depth := t.depth, loops := t.loops, locals := t.locals
      optionPlace := t.optionPlace }
  match r with
  | .error .returns => return ()
  | r => Deed.conclude r

/-! ## Commands of the shell that run scripts -/

/-- Runs the file that a name stands for in the shell itself. -/
def runFile (call : Runner) (args : List Raw) : Deed Unit := do
  match args with
  | [] => Deed.status 0
  | name :: _ =>
    let t ← get
    let places := Text.splitOn ':' ((t.value? "PATH".toList).getD [])
    let path ←
      if name.contains '/' then pure name
      else
        match places.find? fun d => (t.files.read ((Raw.path d).join (Raw.path name))).isOk with
        | some d => pure (Raw.ofPath ((Raw.path d).join (Raw.path name)))
        | none => Deed.fail (name ++ ": not found".toList)
    match t.files.read (Raw.path path) with
    | .error e => cannot "open" path (openingProblem "No such file" e)
    | .ok content =>
      modify fun t => { t with command := some path }
      match ← Deed.attempt (runText call false (Raw.ofBytes content)) with
      | .error .returns => return ()
      | r => Deed.conclude r

/-- Runs a program in the place of the shell. -/
def replaceShell (call : Runner) (args : List Raw) : Deed Unit := do
  match args with
  | [] => Deed.status 0
  | name :: rest =>
    if (imageOf (← get) name).isOk then
      modify fun t => { t with traps := t.traps.filter (·.2.isEmpty) }
    external call true name rest
    throw .exits

/-- The commands of the shell that run scripts or programs. -/
def runningCommand? (call : Runner) (tested : Bool) (name : String) : Option Builtin :=
  match name with
  | "eval" => some fun args => runText call tested (joinBlank args)
  | "." => some (runFile call)
  | "exec" => some (replaceShell call)
  | "command" => some fun args =>
    match args with
    | ['-', 'v'] :: rest => Builtin.whereIs rest
    | ['-', 'V'] :: rest => Builtin.type rest
    | _ => Deed.status 0
  | _ => none

/-- A utility that is part of the shell. It fails when what it writes goes nowhere. -/
def ownUtility (name : Raw) (u : Utility) : Builtin := fun args => do
  let t ← get
  let label := t.name ++ ": ".toList ++ (toString t.line).toList ++ ": ".toList ++ name
  let e := u (t.job label args)
  absorb e
  if e.written.any (fun w => w.1 = 1 ∧ w.2 ≠ []) ∧ (t.streams.lookup 1).isNone then
    Deed.complain (name ++ ": I/O error".toList) 1

/-- The command of the shell that has a name. -/
def command? (call : Runner) (tested : Bool) (name : Raw) : Option Builtin :=
  let s := String.ofList name
  (runningCommand? call tested s).or
    ((Builtin.table.lookup s).or ((Builtin.utilityTable.lookup s).map (ownUtility name)))

/-! ## Simple commands -/

/-- What a simple command is about to run. -/
structure Called where
  words : List Raw
  /-- Functions are passed over. -/
  plain : Bool
  /-- The shell depends on the command. -/
  special : Bool

/-- Leaves out the word that says that no function is meant. -/
def Called.of (functions : List (Raw × Script)) : (fuel : Nat) → (plain : Bool) → List Raw → Called
  | 0, plain, words => ⟨words, plain, false⟩
  | fuel + 1, plain, words =>
    match words with
    | name :: rest =>
      if name = "command".toList ∧ (plain ∨ (functions.lookup name).isNone) then
        match rest with
        | ['-', 'p'] :: next :: more => Called.of functions fuel true (next :: more)
        | ['-', '-'] :: next :: more => Called.of functions fuel true (next :: more)
        | ('-' :: _) :: _ | [] => ⟨words, true, false⟩
        | rest => Called.of functions fuel true rest
      else ⟨words, plain, !plain && specialCommands.contains (String.ofList name)⟩
    | [] => ⟨[], plain, false⟩

/-- The commands whose arguments are assignments. -/
def assigners : List String := ["export", "readonly", "local", "alias"]

/-- Expands the words of a command. Assignments among the arguments of some commands are not split.
-/
def expandWords (capture : Capture) : (first : List Raw) → List Word → Deed (List Raw)
  | first, [] => return first
  | first, w :: ws => do
    let name := first.find? (· ≠ "command".toList)
    let assigns := name.any fun n => assigners.contains (String.ofList n)
    match assigns, Reader.assignment? w with
    | true, some (n, value) =>
      let s ← Word.value capture value
      expandWords capture (first ++ [n ++ '=' :: s]) ws
    | _, _ =>
      let as ← Word.arguments capture w
      expandWords capture (first ++ as) ws

/-- Lets programs see a variable. -/
def shown (name : Raw) (t : Task) : Task :=
  match t.lookup? name with
  | some v => t.putVariable { v with exported := true }
  | none => t

/-- Sets a variable for a command. -/
def assignFor (capture : Capture) (lasting exported : Bool) (name : Raw) (w : Word) :
    Deed Unit := do
  let value ← Word.value capture w
  setVariable name value
  if exported || !lasting then modify (shown name)

/-- Shows a command before it is run, where errors were shown before its redirections. -/
def traceCommand (streams : List (Nat × Stream)) (assignments : List Raw) (words : List Raw) :
    Deed Unit := modify fun t =>
  if t.rules.contains 'x' then
    let text := (t.value? "PS4".toList).getD []
      ++ ((assignments ++ words).intersperse [' ']).flatten ++ ['\n']
    { ({ t with streams } : Task).write 2 text with streams := t.streams }
  else t

/-- Runs a command of the shell. Its failure ends the shell only if the shell depends on it. -/
def runOwn (special : Bool) (name : Raw) (b : Builtin) (arguments : List Raw) : Deed Unit := do
  let outer := (← get).command
  modify fun t => { t with command := some name }
  let r ← Deed.attempt (b arguments)
  modify fun t => { t with command := outer }
  match r, special with
  | .error .fails, false => return ()
  | r, _ => Deed.conclude r

/-- Runs a command whose words have been expanded. -/
def dispatch (call : Runner) (tested : Bool) (c : Called) : Deed Unit := do
  let t ← get
  match c.words with
  | [] => Deed.status t.captured
  | name :: arguments =>
    let function := if c.plain then none else t.functions.lookup name
    match c.special, function, command? call tested name with
    | false, some body, _ => callFunction call tested body arguments
    | _, _, some b => runOwn c.special name b arguments
    | _, _, none => external call false name arguments

/-- Runs a simple command. -/
def simple (call : Runner) (tested : Bool) (line : Nat) (assignments : List (Raw × Word))
    (words : List Word) (rs : List Redirection) : Deed Unit := do
  modify fun t => { t with line, captured := 0 }
  let capture := captureWith call
  let words ← expandWords capture [] words
  let c := Called.of (← get).functions (words.length + 1) false words
  let lasting := c.special || c.words.isEmpty
  let execs := c.words.head? = some "exec".toList
  let before ← get
  let act : Deed Unit := do
    let t ← get
    let old := assignments.map fun a => (t.lookup? a.1).getD ⟨a.1, none, false, false⟩
    let old := if lasting then [] else old
    let named ← assignments.mapM fun a => do
      assignFor capture lasting (execs && 1 < c.words.length) a.1 a.2
      return a.1 ++ '=' :: (← get).valueOf (String.ofList a.1)
    unless named.isEmpty && words.isEmpty do traceCommand before.streams named words
    let r ← Deed.attempt (dispatch call tested c)
    modify (restoreVariables old)
    Deed.conclude r
  if execs && c.words.length = 1 then
    rs.forM fun r => do (← r.expand capture).follow
    act
  else under capture c.special rs act

/-! ## Loops and choices -/

/-- Runs a round of a loop. The answer tells whether the loop goes on. -/
def round (d : Deed Unit) : Deed Bool := do
  match ← Deed.attempt d with
  | .ok () | .error (.repeats 0) | .error (.repeats 1) => return true
  | .error (.leaves 0) | .error (.leaves 1) => return false
  | .error (.leaves (n + 1)) => throw (.leaves n)
  | .error (.repeats (n + 1)) => throw (.repeats n)
  | .error e => throw e

/-- What was written to the output since some texts had been written. -/
def writtenSince (before : List Written) (t : Task) : Raw :=
  let new := (t.written.take (t.written.length - before.length)).reverse
  (new.filter fun w => t.streams.lookup 1 = some w.stream).flatMap (·.text)

/-- Goes round a loop while its condition has the wanted outcome. `last` is the status of the round
before, and `before` is what had been written when that round began. -/
def goRound (wanted : Bool) (condition body : Deed Unit) :
    (rounds last : Nat) → (before : List Written) → Deed Unit
  | 0, _, before => do throw (.spins (writtenSince before (← get)))
  | rounds + 1, last, _ => do
    let before := (← get).written
    if !(← round condition) then Deed.status last
    else if ((← get).status == 0) = wanted then
      if ← round body then goRound wanted condition body rounds (← get).status before
      else return ()
    else Deed.status last

/-- Does something for each value of a variable. -/
def forValues (name : Raw) (body : Deed Unit) : List Raw → Deed Unit
  | [] => return ()
  | v :: vs => do
    setVariable name v
    if ← round body then forValues name body vs

/-- Does something within a loop. -/
def asLoop (d : Deed Unit) : Deed Unit := do
  modify fun t => { t with loops := t.loops + 1 }
  let r ← Deed.attempt d
  modify fun t => { t with loops := t.loops - 1 }
  Deed.conclude r

/-- The first case with a pattern that fits a text. -/
def caseOf? (capture : Capture) (s : Raw) : List (List Word × Script) → Deed (Option Script)
  | [] => return none
  | (ws, body) :: rest => do
    let fits ← ws.foldlM (fun found w =>
      if found then return true
      else return Field.fits (Piece.patternOf (← Word.pieces capture w)) s) false
    if fits then return some body else caseOf? capture s rest

/-! ## Scripts -/

/-- A failure ends a shell that accepts none, unless it is only an answer. Signals are answered
behind each command. -/
def checked (call : Runner) (tested : Bool) (d : Deed Unit) : Deed Unit := do
  d
  let t ← get
  if t.rules.contains 'e' ∧ !tested ∧ t.status ≠ 0 then throw .exits
  answer call

/-- Runs a script, into which it descends at most `depth` levels. -/
def run : (depth : Nat) → Runner
  | 0, _, _ => throw .never
  | depth + 1, tested, s => do
    let call := run depth
    if (← get).rules.contains 'n' then return ()
    match s with
    | .nothing => return ()
    | .simple line as ws rs => checked call tested (simple call tested line as ws rs)
    | .redirected line b rs =>
      modify fun t => { t with line }
      under (captureWith call) false rs (call tested b)
    | .subshell line b => checked call tested (subshell call tested line b)
    | .pipe commands => checked call tested (pipe call tested commands)
    | .background b => background call b
    | .both l r =>
      call true l
      if (← get).status = 0 then call tested r
    | .either l r =>
      call true l
      if (← get).status ≠ 0 then call tested r
    | .negated b =>
      call true b
      modify fun t => t.withStatus (if t.status = 0 then 1 else 0)
    | .sequence a b => call tested a; call tested b
    | .conditional c yes no =>
      call true c
      if (← get).status = 0 then call tested yes
      else
        Deed.status 0
        call tested no
    | .loop wanted c b => asLoop (goRound wanted (call true c) (call tested b) roundLimit 0 [])
    | .forEach line name ws b =>
      modify fun t => { t with line }
      let values ← argumentsOf (captureWith call) ws
      Deed.status 0
      asLoop (forValues name (call tested b) values)
    | .choose line w cases =>
      modify fun t => { t with line }
      let s ← Word.text (captureWith call) w
      match ← caseOf? (captureWith call) s cases with
      | some body => match body with
        | .nothing => Deed.status 0
        | body => call tested body
      | none => Deed.status 0
    | .define name b =>
      modify fun t =>
        let body := if t.documents.isEmpty then b else .documented t.documents b
        { t with functions := (name, body) :: t.functions.filter (·.1 ≠ name), status := 0 }
    | .documented documents b =>
      let outer := (← get).documents
      modify fun t => { t with documents }
      let r ← Deed.attempt (call tested b)
      modify fun t => { t with documents := outer }
      Deed.conclude r

/-- How deep scripts are descended into. -/
def depthLimit : Nat := 20000

end ClarityCheck.Host.Shell

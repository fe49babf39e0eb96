import ClarityCheck.Host.Shell.Builtin
import ClarityCheck.Host.Shell.Redirect

/-!
# Starting shells and programs

A shell reads a text line by line and runs what it has read. Programs and other shells run in
processes of their own, which share the files, the streams and the time with the shell that has
started them.

Every definition takes the way to run a script as an argument.
-/

namespace ClarityCheck.Host.Shell

/-- A way to run scripts. The failure of a tested one is only an answer. -/
abbrev Runner := (tested : Bool) → Script → Deed Unit

/-! ## Texts -/

/-- Runs the lines of a text, of which there are at most `fuel`. `ran` tells that some line held a
command. -/
def runLines (call : Runner) (tested : Bool) : (fuel : Nat) → (ran : Bool) → Cursor → Deed Unit
  | 0, ran, _ => unless ran do Deed.status 0
  | fuel + 1, ran, c => do
    match Cursor.nextLine { c with aliases := (← get).aliases } with
    | .error p =>
      modify fun t => { t with line := p.line }
      Deed.fail ("Syntax error: ".toList ++ p.text.toList)
    | .ok (none, _) => unless ran do Deed.status 0
    | .ok (some .nothing, c) => runLines call tested fuel ran c
    | .ok (some s, c) => do
      call tested s
      runLines call tested fuel true c

/-- Runs a text. Its status is zero if it holds no command. -/
def runText (call : Runner) (tested : Bool) (s : Raw) : Deed Unit :=
  runLines call tested (s.length + 1) false (Cursor.start s)

/-! ## Signals -/

/-- Runs what is to be done on a signal; the status stays. -/
def runAnswer (call : Runner) (action : Raw) : Deed Unit := do
  let t ← get
  set { t with saved := some t.status }
  runText call false action
  modify fun s => { s with status := t.status, saved := t.saved }

/-- Answers one signal. -/
def answerTo (call : Runner) (signal : Nat) : Deed Unit := do
  let t ← get
  match if Signal.isSovereign signal then none else t.traps.lookup signal with
  | some action => unless action.isEmpty do runAnswer call action
  | none =>
    match Signal.effectOf signal with
    | .nothing => return ()
    | .stops => throw .never
    | .kills => throw (.killed signal)

/-- Answers the signals that the shell was sent, at most `fuel` of them. -/
def answerSome (call : Runner) : (fuel : Nat) → Deed Unit
  | 0 => return ()
  | fuel + 1 => do
    let t ← get
    match t.within, t.signals with
    | false, n :: rest =>
      set { t with signals := rest }
      answerTo call n
      answerSome call fuel
    | _, _ => return ()

/-- How many signals are answered at once. -/
def signalLimit : Nat := 100

/-- Answers the signals that the shell was sent. Those for the shell around it are left to that one.
-/
def answer (call : Runner) : Deed Unit := answerSome call signalLimit

/-- Does something up to the end of a shell, where the shell does what it was told to do then. -/
def finish (call : Runner) (d : Deed Unit) : Deed Unit := do
  match ← Deed.attempt d with
  | .error (.killed n) => throw (.killed n)
  | .error .never => throw .never
  | .error (.spins again) => throw (.spins again)
  | _ =>
    let t ← get
    match t.traps.lookup 0 with
    | none => return ()
    | some action =>
      set { t with traps := t.traps.filter (·.1 ≠ 0), loops := 0 }
      match ← Deed.attempt (runAnswer call action) with
      | .error (.killed n) => throw (.killed n)
      | .error .never => throw .never
      | .error (.spins again) => throw (.spins again)
      | _ => return ()

/-! ## Processes -/

/-- Does something in a process of its own and says how that came to an end. -/
def apart (prepare : Task → Task) (d : Deed Unit) : Deed (Except Ending Unit) := do
  let t ← get
  let (r, child) := d.run (prepare t)
  set { t.rejoin child with signals := t.signals ++ if child.within then child.signals else [] }
  return r

/-- A process that is no shell within this one. -/
def foreign (t : Task) : Task := { t with within := false, signals := [] }

/-- A process has ended. One that a signal has ended has a status above 128. -/
def await (r : Except Ending Unit) : Deed Unit := do
  match r with
  | .error (.killed n) => modify fun t => (t.write 2 (Signal.report n)).withStatus (128 + n)
  | .error .never => throw .never
  | .error (.spins again) => throw (.spins again)
  | _ => return ()

/-- A process in the place of the shell has ended. -/
def succeed (r : Except Ending Unit) : Deed Unit := do
  match r with
  | .error (.killed n) => throw (.killed n)
  | r => await r

/-- A process with a number of its own. -/
def numbered (t : Task) : Task := { t with processes := t.processes + 1, number := t.processes + 1 }

/-- Runs a script for what it writes. -/
def captureWith (call : Runner) : Capture := fun script => do
  let t ← get
  let sink := Stream.pipe t.pipes
  let r ← apart (fun t => { t.inner with pipes := t.pipes + 1 }.lead 1 sink)
    (finish call (call false script))
  await r
  let s := (← get).writtenTo sink
  let closed := (← get).held.foldl (fun n h => if h.1 = sink then max n h.2.1 else n) (← get).clock
  Deed.goOnAt closed
  modify fun s => { s with captured := s.status, status := t.status }
  return s

/-! ## The shell as a program -/

/-- Reads the options at the front of the arguments of the shell, of which there are at most `fuel`.
-/
def openingOptions : (fuel : Nat) → (command : Bool) → List Raw → Deed (Bool × List Raw)
  | 0, command, args => return (command, args)
  | fuel + 1, command, args =>
    match args with
    | ['-'] :: rest | ['-', '-'] :: rest => return (command, rest)
    | ('-' :: letters) :: rest => do
      let (command, rest) ← letters.foldlM (one true) (command, rest)
      openingOptions fuel command rest
    | ('+' :: letters) :: rest => do
      let (command, rest) ← letters.foldlM (one false) (command, rest)
      openingOptions fuel command rest
    | args => return (command, args)
where
  one (on : Bool) (state : Bool × List Raw) (c : Char) : Deed (Bool × List Raw) := do
    match c, state with
    | 'c', (_, rest) => return (true, rest)
    | 'l', state => return state
    | 'o', (command, name :: rest) =>
      match Builtin.ruleNames.lookup (String.ofList name) with
      | some c => modify (Builtin.setRule on c); return (command, rest)
      | none => Deed.fail ("Illegal option -o ".toList ++ name)
    | c, state =>
      if c.toNat < 0x20 || !(Builtin.ruleNames.map (·.2)).contains c then
        Deed.fail ("Illegal option ".toList ++ [if on then '-' else '+', c])
      else
        modify (Builtin.setRule on c)
        return state

/-- Runs what the arguments of a shell ask for. -/
def openShell (call : Runner) (arguments : List Raw) : Deed Unit := do
  let (command, rest) ← openingOptions (arguments.length + 1) false arguments
  let fromInput : Deed Unit := do
    let source := (← get).input
    modify fun t => t.withInput { source with text := [] }
    runText call false source.text
    match source.after with
    | .ends => return ()
    | .goesOn false => throw .never
    | _ => throw (.spins [])
  if command then
    match rest with
    | [] => Deed.fail "-c requires an argument".toList
    | script :: rest =>
      modify fun t => { t with name := rest.headD t.name, arguments := rest.drop 1 }
      runText call false script
  else
    match rest with
    | [] => fromInput
    | path :: others =>
      if (← get).rules.contains 's' then
        modify fun t => { t with arguments := rest }
        fromInput
      else
        match (← get).files.read (Raw.path path) with
        | .ok content =>
          modify fun t => { t with name := path, arguments := others }
          runText call false (Raw.ofBytes content)
        | .error e => cannot "open" path (openingProblem "No such file" e)

/-- A shell at its start. -/
def fresh (environment : List (Raw × Raw)) (name : Raw) (t : Task) : Task :=
  { t with
    name, arguments := [], status := 0, captured := 0, saved := none, background := []
    bindings := Task.variablesFrom environment (Raw.ofPath t.files.currentPath)
    functions := [], aliases := [], documents := [], within := false, signals := [], rules := []
    traps := t.traps.filter (·.2.isEmpty)
    line := 0, command := none, depth := 0, loops := 0, locals := [], optionPlace := 0 }

/-- Runs the shell as a program. -/
def runShell (call : Runner) (environment : List (Raw × Raw)) (name : Raw) (arguments : List Raw) :
    Deed Unit := do
  modify (fresh environment name)
  finish call (openShell call arguments)

/-! ## Programs -/

/-- Takes over what a utility does, apart from the programs that it starts. -/
def absorb (e : Effect) : Deed Unit := do
  modify fun t =>
    let t : Task := { t with files := { e.files with directory := t.files.directory } }
    let t := e.written.foldl (fun t w => t.write w.1 w.2) t
    (t.withInput e.input).withStatus e.status
  match e.span with
  | .takes 0 => return ()
  | .takes ms => Deed.goOnAt ((← get).clock + ms)
  | .waits => throw .never
  | .spins again => throw (.spins again)

/-- The status of a program that cannot be started. -/
def failureStatus (e : SystemError) : Nat :=
  match e.kindOf with
  | .notFound | .notADirectory => 127
  | _ => 126

/-- Stops a process that takes too long: what it wrote later was never written. -/
def stopAt (before : Task) (limit : Limit) (r : Except Ending Unit) :
    Deed (Except Ending Unit) := do
  let t ← get
  let last := before.clock + limit.milliseconds
  let isEndless := match r with
    | .error .never | .error (.spins _) => true
    | _ => false
  if !isEndless ∧ t.clock ≤ last then return r
  else
    let new := t.written.take (t.written.length - before.written.length)
    let kept := new.filter (·.time ≤ last)
    modify fun t => { t with written := kept ++ before.written, status := limit.status }
    Deed.goOnAt last
    return match limit.signal with
      | some n => .error (.killed n)
      | none => .ok ()

mutual

/-- Runs a program in the place of the shell. Programs start each other at most `fuel` times. -/
def runProgram (call : Runner) : (fuel : Nat) → (environment : List (Raw × Raw)) → Image →
    (name : Raw) → (arguments : List Raw) → Deed Unit
  | 0, _, _, _, _ => throw .never
  | fuel + 1, environment, image, name, arguments => do
    let name := image.name.getD name
    let arguments := image.leading ++ arguments
    match image.program with
    | .shell => runShell call environment name arguments
    | .utility u =>
      let t ← get
      let e := u ⟨name, arguments, t.input, t.files, environment⟩
      absorb e
      runSuccessors call fuel 0 e.successors

/-- Runs the programs that a utility starts one after the other. The status is the greatest of
theirs. -/
def runSuccessors (call : Runner) : (fuel : Nat) → (status : Nat) → List Successor → Deed Unit
  | _, _, [] => return ()
  | 0, _, _ => throw .never
  | fuel + 1, status, s :: rest => do
    let t ← get
    let place := s.directory.bind fun d => (t.files.locate true d).toOption
    let directory := place.getD t.files.directory
    let files := { t.files with directory }
    let name := s.arguments.headD []
    let refuse (e : SystemError) : Deed Unit := modify fun t =>
      let hint := if failureStatus e = 127 then s.hint else []
      (t.write 2 (s.about ++ ": ".toList ++ Job.reason e ++ ['\n'] ++ hint)).withStatus
        (failureStatus e)
    let image := match Program.find files (s.environment.lookup "PATH".toList) name with
      | .ok (_, image) => Except.ok (image, s.arguments.drop 1)
      | .error .badExecutable => .ok (⟨.shell, some "/bin/sh".toList, []⟩, s.arguments)
      | .error e => .error e
    match image with
    | .error e => refuse e
    | .ok (image, arguments) =>
      let r ← apart (fun t => { foreign t with files })
        (runProgram call fuel s.environment image name arguments)
      let r ← match s.limit with
        | some limit => stopAt t limit r
        | none => pure r
      if rest.isEmpty ∧ status = 0 then succeed r else await r
      Deed.status (max status (s.answer (← get).status))
      runSuccessors call fuel (max status (s.answer (← get).status)) rest

end

/-- How often programs start each other. -/
def programLimit : Nat := 200

/-- What a command finds under its name, or the complaint and the status when there is nothing. A
file without a sign of its interpreter is a script for the shell. -/
def imageOf (t : Task) (name : Raw) : Except (String × Nat) (Image × List Raw) :=
  match Program.find t.files (some ((t.value? "PATH".toList).getD [])) name with
  | .ok (_, image) => .ok (image, [])
  | .error .badExecutable => .ok (⟨.shell, some "/bin/sh".toList, []⟩, [name])
  | .error e =>
    if failureStatus e = 127 then .error ("not found", 127)
    else .error (String.ofList (Job.reason e), if name.contains '/' then 126 else 127)

/-- Runs the program of a name, in the place of the shell or in a process of its own. -/
def external (call : Runner) (inPlace : Bool) (name : Raw) (arguments : List Raw) : Deed Unit := do
  let t ← get
  match imageOf t name with
  | .error (message, status) => Deed.complain (name ++ ": ".toList ++ message.toList) status
  | .ok (image, leading) =>
    let run := runProgram call programLimit t.environment image name (leading ++ arguments)
    if inPlace then succeed (← apart foreign run)
    else await (← apart (fun t => numbered (foreign t)) run)

end ClarityCheck.Host.Shell

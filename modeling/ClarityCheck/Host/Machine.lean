import ClarityCheck.Environment
import ClarityCheck.Host.Shell.Run
import ClarityCheck.Run.Clock
import ClarityCheck.Run.Executor
import ClarityCheck.Run.Reading

/-!
# The host at work

The host runs the programs that stand in its files and its own utilities. What a run shows while it
is watched follows from when its process ends and when its streams are closed.

Main statements: `execute_of_noDeadline` (a run whose deadline cannot be written down is not begun)
and `start_of_error` (a program that is not found changes no file).
-/

namespace ClarityCheck.Host

/-! ## A process from beginning to end -/

/-- What a process does when nobody stops it, in milliseconds from its beginning. -/
structure Course where
  /-- When the process ends, and how; nothing when it never does. -/
  ending : Option (Nat × Option Int)
  stdout : Bytes
  stderr : Bytes
  /-- When the streams are closed. -/
  stdoutClosed : Nat
  stderrClosed : Nat

/-- When the last holder of a stream closes it. -/
def closingTime (t : Shell.Task) (stream : Nat) : Nat :=
  t.held.foldl (fun time h => if h.1 = .run stream then max time h.2.1 else time) t.clock

/-- The course of a process that a task was. -/
def Course.ofTask (r : Except Shell.Ending Unit × Shell.Task) : Course :=
  let (e, t) := r
  { ending := match e with
      | .error .never | .error (.spins _) => none
      | .error (.killed _) => some (t.clock, none)
      | _ => some (t.clock, some t.status)
    stdout := (t.writtenTo (.run 1)).bytes
    stderr := (t.writtenTo (.run 2)).bytes
    stdoutClosed := closingTime t 1
    stderrClosed := closingTime t 2 }

/-! ## Watching -/

/-- The milliseconds between two looks. -/
def interval : Nat := Run.pollInterval.nanoseconds / 1000000

/-- The nanoseconds by which the clock has moved on when it is first read. -/
def readingDelay : Nat := 1000

/-- The time since the beginning at a number of milliseconds, as a look measures it. -/
def elapsedAt (ms : Nat) : Duration := ⟨(Duration.ofMilliseconds ms).nanoseconds + readingDelay⟩

/-- The caller has cancelled by a time. -/
def cancelledBy (cancelTime : Option Nat) (ms : Nat) : Bool := cancelTime.any (· ≤ ms)

/-- A look at a process at a number of milliseconds. -/
def Course.look (c : Course) (cancelTime : Option Nat) (ms : Nat) : Run.Look where
  exit := .ok (c.ending.bind fun e => if e.1 ≤ ms then some e.2 else none)
  cancelled := cancelledBy cancelTime ms
  elapsed := elapsedAt ms

/-- What a wait for a stream shows that begins at a number of milliseconds. -/
def waitAt (limit : Duration) (cancelTime : Option Nat) (closed ms : Nat) : Run.Wait :=
  let remaining : Duration := ⟨limit.nanoseconds - (Duration.ofMilliseconds ms).nanoseconds⟩
  let wait := min remaining.nanoseconds Run.pollInterval.nanoseconds
  let last := (Duration.ofMilliseconds ms).nanoseconds + wait
  { remaining
    ended := (Duration.ofMilliseconds closed).nanoseconds ≤ last
    cancelled := cancelledBy cancelTime (last / 1000000) }

/-- The first time of a look that is not before a time. -/
def nextLook (ms : Nat) : Nat := (ms + interval - 1) / interval * interval

/-- When the end of a process is seen. -/
def Course.seenAt (c : Course) : Nat := nextLook ((c.ending.map (·.1)).getD 0)

/-- A stream of a process. It comes in one piece, and is waited for from a number of milliseconds
on. -/
def feed (r : Run.Request) (cancelTime : Option Nat) (bytes : Bytes) (closed start : Nat) :
    Run.Feed where
  pieces := [.bytes bytes]
  waits k := waitAt r.timeout cancelTime closed (start + k * interval)

/-- What a process writes as its output, waited for when its end has been seen. -/
def Course.output (c : Course) (r : Run.Request) (cancelTime : Option Nat) : Run.Feed :=
  feed r cancelTime c.stdout c.stdoutClosed c.seenAt

/-- What a process writes as its errors, waited for when its output is there. -/
def Course.errors (c : Course) (r : Run.Request) (cancelTime : Option Nat) : Run.Feed :=
  feed r cancelTime c.stderr c.stderrClosed (max c.seenAt c.stdoutClosed)

/-- What is seen of a process. -/
def Course.observed (c : Course) (r : Run.Request) (cancelTime : Option Nat) : Run.Observed where
  looks k := c.look cancelTime (k * interval)
  stdout := (c.output r cancelTime).arrival r.outputLimit
  stderr := (c.errors r cancelTime).arrival r.outputLimit

/-- When a process is stopped at the latest. -/
def stopTime (limit : Duration) (cancelTime : Option Nat) : Nat :=
  let timeout :=
    if limit.nanoseconds < readingDelay then 0
    else ((limit.nanoseconds - readingDelay) / Run.pollInterval.nanoseconds + 1) * interval
  match cancelTime with
  | some ms => min timeout (nextLook ms)
  | none => timeout

/-! ## Executing -/

/-- The reading of the clock when the host comes up. -/
def beginning : Run.Instant := ⟨0, 0, by decide, by decide, by decide⟩

/-- A text handed to the system holds a NUL. -/
def nulInText : SystemError := .text .invalidInput "nul byte found in provided data"

/-- The directory that a program runs in. -/
def enter (files : Files) (directory : Option Path) : Except SystemError Files :=
  match directory with
  | none => .ok files
  | some d =>
    match files.locate true d with
    | .error e => .error e
    | .ok l =>
      match files.get? l with
      | some .directory => .ok { files with directory := l }
      | some _ => .error .notDirectory
      | none => .error .notFound

/-- The variables of an environment as programs see them. -/
def rawEnvironment (e : Environment) : List (Raw × Raw) :=
  e.bindings.map fun v => (Raw.ofString v.name, Raw.ofString v.value)

/-- Finds what a request wants to run, and the files as seen from where it runs. -/
def prepare (e : Environment) (files : Files) (r : Run.Request) :
    Except SystemError (Image × Files) :=
  if (r.program.bytes :: r.arguments ++ (r.directory.map (·.bytes)).toList).any (·.contains 0) then
    .error nulInText
  else
    match enter files r.directory with
    | .error e => .error e
    | .ok files =>
      match Program.find files ((e.get? "PATH").map Raw.ofString) (Raw.ofPath r.program) with
      | .error e => .error e
      | .ok (_, image) => .ok (image, files)

/-- Runs a program to its end or until it is stopped. -/
def course (e : Environment) (files : Files) (r : Run.Request) (cancelTime : Option Nat)
    (image : Image) : Course × Files :=
  let name := Raw.ofPath r.program
  let arguments := r.arguments.map Raw.ofBytes
  let environment := rawEnvironment e
  let task := Shell.Task.start files environment (stopTime r.timeout cancelTime) name arguments
  let result :=
    (Shell.runProgram (Shell.run Shell.depthLimit) Shell.programLimit environment image name
      arguments).run task
  (Course.ofTask result, result.2.files)

/-- Runs a program under supervision. -/
def watch (e : Environment) (cancelTime : Option Nat) (files seen : Files) (r : Run.Request)
    (image : Image) : Run.Outcome × Files :=
  let (c, after) := course e seen r cancelTime image
  let outcome : Run.Outcome := match Run.supervise r.timeout (c.observed r cancelTime) with
    | some (.ok o, _) => .ok o
    | some (.error cause, _) => .error ⟨r.program.display, cause⟩
    | none => .error ⟨r.program.display, .timedOut r.timeout⟩
  (outcome, { after with directory := files.directory })

/-- Runs a program that has to be found first. -/
def start (e : Environment) (cancelTime : Option Nat) (files : Files) (r : Run.Request) :
    Run.Outcome × Files :=
  match prepare e files r with
  | .error err => (.error ⟨r.program.display, .notStarted err⟩, files)
  | .ok (image, seen) => watch e cancelTime files seen r image

/-- A program that is not found changes no file. -/
theorem start_of_error {e : Environment} {cancelTime : Option Nat} {files : Files}
    {r : Run.Request} {err : SystemError} (h : prepare e files r = .error err) :
    start e cancelTime files r = (.error ⟨r.program.display, .notStarted err⟩, files) := by
  simp [start, h]

/-- Runs what a request asks for at a reading of the clock. The caller may cancel a number of
milliseconds later. -/
def execute (now : Run.Instant) (e : Environment) (cancelTime : Option Nat) (files : Files)
    (r : Run.Request) : Run.Outcome × Files :=
  match now.after? r.timeout with
  | none => (.error ⟨r.program.display, .noDeadline⟩, files)
  | some _ => start e cancelTime files r

/-- A run whose deadline cannot be written down is not begun. -/
theorem execute_of_noDeadline {now : Run.Instant} {e : Environment} {cancelTime : Option Nat}
    {files : Files} {r : Run.Request} (h : now.after? r.timeout = none) :
    execute now e cancelTime files r = (.error ⟨r.program.display, .noDeadline⟩, files) := by
  simp [execute, h]

/-- The executor that runs programs on the host, at a reading of the clock. -/
def executor {σ : Type} (now : Run.Instant) (e : Environment) : Run.Executor σ := fun r t s =>
  let cancelTime := if t.isCancelled s then some 0 else none
  let (outcome, files) := execute now e cancelTime s.files r
  (outcome, { s with files })

end ClarityCheck.Host

import ClarityCheck.Host.Shell.Start

/-!
# Shells within a shell

Scripts that run in shells of their own: in parentheses, as members of a pipe, and in the
background.
-/

namespace ClarityCheck.Host.Shell

/-- Runs a script in a shell within this one. -/
def subshell (call : Runner) (tested : Bool) (line : Nat) (body : Script) : Deed Unit := do
  modify fun t => { t with line }
  await (← apart Task.inner (finish call (call tested body)))

/-- How a member of a pipe came to an end. -/
structure PipeEnd where
  outcome : Except Ending Unit
  /-- It wrote something to the member behind it. -/
  wrote : Bool

/-- What a member of a pipe leaves to the one behind it. -/
def PipeEnd.behind (m : PipeEnd) : Source.After :=
  match m.outcome with
  | .error .never => .goesOn false
  | .error (.spins again) => if again.isEmpty ∨ !m.wrote then .goesOn m.wrote else .repeats again
  | _ => .ends

/-- Runs the members of a pipe, all of which begin at the same time. Each reads what the one before
it has written. -/
def members (call : Runner) (tested : Bool) (start : Nat) :
    List Script → (input : Option Source) → (latest : Nat) → Deed (List PipeEnd × Nat)
  | [], _, latest => return ([], latest)
  | s :: rest, input, latest => do
    let sink := Stream.pipe (← get).pipes
    let prepare (t : Task) : Task :=
      let t := { t.inner with clock := start, pipes := t.pipes + 1 }
      let t := match input with
        | some i => t.leadFrom 0 i
        | none => t
      if rest.isEmpty then t else t.lead 1 sink
    let outer := (← get).streams
    let r ← apart prepare (finish call (call tested s))
    let t ← get
    let text := t.writtenTo sink
    let m : PipeEnd := ⟨r, !text.isEmpty⟩
    modify fun t => { t with streams := outer }
    if let .error (.killed n) := r then await (.error (.killed n))
    let closed := t.held.foldl (fun n h => if h.1 = sink then max n h.2.1 else n) t.clock
    let (ms, latest) ← members call tested start rest (some ⟨text, m.behind, false⟩)
      (max latest closed)
    return (m :: ms, latest)

/-- The outcome of a pipe. One that writes without end stops when nobody reads any more. -/
def outcomeOf (ms : List PipeEnd) : Except Ending Unit :=
  let isNever (m : PipeEnd) : Bool := match m.outcome with
    | .error .never => true
    | .error (.spins _) => !m.wrote
    | _ => false
  let others : Except Ending Unit := if ms.dropLast.any isNever then .error .never else .ok ()
  match (ms.getLast?.map PipeEnd.outcome).getD (.ok ()) with
  | .error .never => .error .never
  | .error (.spins again) => .error (.spins again)
  | _ => others

/-- Runs commands between which pipes stand. -/
def pipe (call : Runner) (tested : Bool) (commands : List Script) : Deed Unit := do
  let (ms, latest) ← members call tested (← get).clock commands none (← get).clock
  Deed.goOnAt (max latest (← get).clock)
  Deed.conclude (outcomeOf ms)

/-- Runs a script in the background, which keeps its streams open until it ends. -/
def background (call : Runner) (body : Script) : Deed Unit := do
  let t ← get
  let number := t.processes + 1
  let child := { t.inner with processes := number, writer := number }.leadFrom 0 .empty
  let (r, child) := (finish call (call false body)).run child
  let ends := match r with
    | .error .never | .error (.spins _) => max (t.deadline + 1) child.clock
    | _ => child.clock
  let signal := match r with
    | .error (.killed n) => some n
    | _ => none
  let streams := (child.streams.map (·.2)).eraseDups
  let job : Background := ⟨number, ends, child.status, signal⟩
  set { t.rejoin child with
    clock := t.clock, status := 0, background := job :: t.background
    signals := t.signals ++ child.signals
    held := streams.map (fun s => (s, ends, number)) ++ child.held }

end ClarityCheck.Host.Shell

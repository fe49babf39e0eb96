import ClarityCheck.Host.Shell.Expansion

/-!
# Redirections

Where the streams of a command lead while it runs. The words of all redirections are expanded before
any stream is led to another place.
-/

namespace ClarityCheck.Host.Shell

/-- A redirection whose words have been expanded. -/
inductive Redirected where
  | write (stream : Nat) (path : Raw) (opening : Opening)
  | read (stream : Nat) (path : Raw)
  | duplicate (stream other : Nat)
  | close (stream : Nat)
  | text (stream : Nat) (s : Raw)

/-- Expands the words of a redirection. -/
def Redirection.expand (capture : Capture) : Redirection → Deed Redirected
  | .write stream w opening => return .write stream (← Word.text capture w) opening
  | .read stream w => return .read stream (← Word.text capture w)
  | .document stream number => do
    let w := ((← get).documents.lookup number).getD []
    return .text stream (Piece.textOf (← Word.piecesWithin capture wordDepth w))
  | .duplicate stream w => do
    let s ← Word.text capture w
    if s = ['-'] then return .close stream
    match Raw.nat? s with
    | some n => return .duplicate stream n
    | none => Deed.fail ("Syntax error: Bad fd number".toList)

/-- A file that cannot be opened, in the words of the shell. -/
def openingProblem (missing : String) (e : SystemError) : Raw :=
  match e.kindOf with
  | .notFound | .notADirectory => missing.toList
  | _ => Job.reason e

/-- The stream that a path stands for. -/
def standardStream? (path : Raw) : Option Nat :=
  match String.ofList path with
  | "/dev/stdin" => some 0
  | "/dev/stdout" => some 1
  | "/dev/stderr" => some 2
  | s => if s.startsWith "/dev/fd/" then Raw.nat? (path.drop 8) else none

/-- The place that a path opens for writing, and the files when it is open. -/
def openSink (t : Task) (path : Raw) (opening : Opening) : Except SystemError (Stream × Files) :=
  match standardStream? path with
  | some n => .ok ((t.streams.lookup n).getD .nowhere, t.files)
  | none =>
    match t.files.locate true (Raw.path path) with
    | .error e => .error e
    | .ok l =>
      match t.files.get? l with
      | some .directory => .error .isDirectory
      | some (.file _ permissions) =>
        if opening = .anew ∧ t.rules.contains 'C' then .error .exists_
        else .ok (.file l,
          if opening = .behind then t.files else t.files.put l (.file [] permissions))
      | some _ => .ok (.nowhere, t.files)
      | none =>
        if path.getLast? = some '/' then .error .isDirectory
        else .ok (.file l, t.files.put l (.file [] .plain))

/-- Complains about a file that cannot be opened. -/
def cannot (verb : String) (path reason : Raw) : Deed Unit :=
  Deed.fail (("cannot " ++ verb ++ " ").toList ++ path ++ ": ".toList ++ reason)

/-- Leads a stream to its new place. -/
def Redirected.follow : Redirected → Deed Unit
  | .write stream path opening => do
    match openSink (← get) path opening with
    | .ok (place, files) => modify fun t => ({ t with files } : Task).lead stream place
    | .error e => cannot "create" path (openingProblem "Directory nonexistent" e)
  | .read stream path => do
    let t ← get
    match standardStream? path with
    | some n => modify fun t => t.lead stream ((t.streams.lookup n).getD .nowhere)
    | none =>
      match t.files.stat (Raw.path path) with
      | .ok (.file content _) => modify fun t => t.leadFrom stream (.ofFile (Raw.ofBytes content))
      | .ok (.device .zero) => modify fun t => t.leadFrom stream ⟨[], .repeats ['\x00'], true⟩
      | .ok _ => modify fun t => t.leadFrom stream .empty
      | .error e => cannot "open" path (openingProblem "No such file" e)
  | .duplicate stream other => do
    match (← get).streams.lookup other with
    | some place => modify fun t => t.lead stream place
    | none => Deed.fail ((toString other).toList ++ ": Bad file descriptor".toList)
  | .close stream => modify fun t => { t with streams := t.streams.filter (·.1 ≠ stream) }
  | .text stream s => modify fun t => t.leadFrom stream (.ofText s)

/-- Does something while streams lead to other places. When they cannot be led there the command
fails, and the shell with it if it depends on the command. -/
def under (capture : Capture) (dependent : Bool) (rs : List Redirection) (act : Deed Unit) :
    Deed Unit := do
  if rs.isEmpty then act
  else
    let ways ← rs.mapM (·.expand capture)
    let streams := (← get).streams
    let opened ← Deed.attempt (ways.forM Redirected.follow)
    let outcome ← match opened with
      | .ok () => Deed.attempt act
      | .error .fails => pure (if dependent then .error .fails else .ok ())
      | .error e => pure (.error e)
    modify fun t => { t with streams }
    Deed.conclude outcome

end ClarityCheck.Host.Shell

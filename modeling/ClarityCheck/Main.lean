import ClarityCheck.Download.Install
import ClarityCheck.Host.Machine
import ClarityCheck.Session

/-!
# The command line

Calls the library with the arguments, the environment and the files of the process that it runs in.
Files are read when the session starts; what a session changes, it changes in its own copy of them.
Programs of the process's host are not started: a compiler is reported as one that cannot be run.
-/

namespace ClarityCheck.CommandLine

/-- The place where the environment of a process can be read. -/
def environmentFile : String := "/proc/self/environ"

/-- The place where the status of a process can be read. -/
def statusFile : String := "/proc/self/status"

/-- The place where the users of the system are listed. -/
def usersFile : String := "/etc/passwd"

/-- The variables in an environment whose texts end in NUL. -/
def readVariables (content : Bytes) : List Variable :=
  let texts := Text.splitOn '\x00' (Text.Utf8.decodeLossy content)
  (texts.filter (·.contains '=')).map fun s =>
    ⟨String.ofList (s.takeWhile (· ≠ '=')), String.ofList ((s.dropWhile (· ≠ '=')).drop 1)⟩

/-- The number of the user that a process with this status runs for. -/
def readUser? (status : Bytes) : Option Bytes :=
  let fields := (Path.splitBytes 0x0A status).map (Path.splitBytes 0x09)
  (fields.find? fun f => f.head? = some (Text.Utf8.encode "Uid:".toList)).bind (·[1]?)

/-- The home directory of a user in a list of users, a line for each. -/
def readHome? (users user : Bytes) : Option Path :=
  let entries := (Path.splitBytes 0x0A users).map (Path.splitBytes 0x3A)
  ((entries.find? fun e => e[2]? = some user).bind (·[5]?)).map Path.mk

/-- The paths that a session may look at: the words of the command line, the values of its options,
and the places of configuration files. -/
def wantedPaths (e : Environment) (words : List Bytes) : List Path :=
  let values := words.map fun w => (w.dropWhile (· ≠ 0x3D)).drop 1
  ((words ++ values).filter (· ≠ [])).map Path.mk ++ Settings.Source.candidates e

/-- Adds a file with the directories above it. -/
def addFile (files : Files) (p : Path) (content : Bytes) : Files :=
  let files := match p.parent? with
    | some d => (files.createDirectories d).2
    | none => files
  ((files.write p content).toOption).getD files

/-- No server is asked for anything. -/
def silence {σ : Type} : Download.Network σ := fun url _ s =>
  (.noAnswer ("error sending request for url (" ++ url.text ++ ")"), s)

/-- No program can be started. -/
def idleExecutor {σ : Type} : Run.Executor σ := fun r _ s =>
  (.error ⟨r.program.display, .notStarted (.code 38)⟩, s)

/-- The bytes of a file, none if it cannot be read. -/
def readBytes (name : String) : IO Bytes := do
  try
    return (← IO.FS.readBinFile name).toList
  catch _ => return []

/-- What surrounds the process. -/
def currentEnvironment : IO Environment := do
  let user? := readUser? (← readBytes statusFile)
  let users ← readBytes usersFile
  return ⟨readVariables (← readBytes environmentFile), user?.bind (readHome? users)⟩

/-- Reads what there is at a path into a copy of the file system. -/
def copyFile (files : Files) (p : Path) : IO Files := do
  let name := p.display
  try
    let content ← IO.FS.readBinFile name
    return addFile files p content.toList
  catch _ => return files

end ClarityCheck.CommandLine

section

open ClarityCheck ClarityCheck.CommandLine

/-- Runs a session for the arguments of the process. -/
def main (arguments : List String) : IO UInt32 := do
  let words := Text.Utf8.encode "clarigate".toList :: arguments.map fun a =>
    Text.Utf8.encode a.toList
  let e ← currentEnvironment
  let here := Path.ofString (← IO.currentDir).toString
  let empty : Files := ⟨[], []⟩
  let start := { (empty.createDirectories here).2 with directory := here.names }
  let files ← (wantedPaths e words).foldlM copyFile start
  let scene : Scene Unit := ⟨files, false, ()⟩
  let checker : Session.Checker Unit :=
    Session.checking e idleExecutor (Download.fetching silence) 1
  let terminal ← (← IO.getStdout).isTty
  match (Session.run checker e terminal words scene).1 with
  | .ok ending =>
    (← IO.getStdout).putStr ending.stdout
    (← IO.getStderr).putStr ending.stderr
    return UInt32.ofNat ending.status
  | .error crash =>
    (← IO.getStderr).putStr (crash.message ++ "\n")
    return UInt32.ofNat Session.crashStatus

end

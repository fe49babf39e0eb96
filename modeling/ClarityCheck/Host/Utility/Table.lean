import ClarityCheck.Host.Utility.Calculation
import ClarityCheck.Host.Utility.Condition
import ClarityCheck.Host.Utility.Echo
import ClarityCheck.Host.Utility.Edit
import ClarityCheck.Host.Utility.Files
import ClarityCheck.Host.Utility.Launch
import ClarityCheck.Host.Utility.Search

/-!
# The utilities of the host

Every utility with its name.
-/

namespace ClarityCheck.Host

/-- Waits. -/
def sleep : Utility := fun j =>
  let a := Job.Arguments.read [] true j.arguments
  match a.problem, a.operands with
  | some m, _ => j.misused m
  | none, [] => j.misused "missing operand"
  | none, operands =>
    if operands.any fun s => s = "infinity".toList || s = "inf".toList then
      { j.nothing with span := .waits }
    else
      match operands.find? fun s => (spanOf? s).isNone with
      | some s => j.misused ("invalid time interval '" ++ String.ofList s ++ "'")
      | none => { j.nothing with span := .takes ((operands.filterMap spanOf?).foldl (· + ·) 0) }

/-- Writes the values of variables, or all variables. -/
def printenv : Utility := fun j =>
  let a := Job.Arguments.read [('0', false)] false j.arguments
  match a.problem, a.operands with
  | some m, _ => (j.misused m).ending 2
  | none, [] => j.writes (variableLines (if a.has '0' then '\x00' else '\n') j.environment)
  | none, names =>
    names.foldl (fun e n =>
      match j.environment.lookup n with
      | some v => e.output (v ++ [if a.has '0' then '\x00' else '\n'])
      | none => e.ending 1) j.nothing

/-- The characters that a utility writes before it is known to write without end. -/
def endlessWidth : Nat := 65536

/-- Writes the same line again and again. -/
def yes : Utility := fun j =>
  let a := Job.Arguments.read [] true j.arguments
  match a.problem with
  | some m => j.misused m
  | none =>
    let words := if a.operands.isEmpty then [['y']] else a.operands
    let line := (words.intersperse [' ']).flatten ++ ['\n']
    let count := endlessWidth / line.length + 1
    { j.writes (List.replicate count line).flatten with span := .spins line }

/-- Tells names of the system. -/
def uname : Utility := fun j =>
  let a := Job.Arguments.read ("asnrvmpio".toList.map fun c => (c, false)) true j.arguments
  match a.problem with
  | some m => j.misused m
  | none =>
    let names := [('s', "Linux"), ('m', "x86_64"), ('o', "GNU/Linux")]
    let shown := names.filter fun n => a.has n.1 || a.has 'a'
    let shown := if shown.isEmpty then ["Linux"] else shown.map (·.2)
    j.writes (" ".intercalate shown ++ "\n").toList

/-- Tells who runs the utility. -/
def identity : Utility := fun j =>
  let a := Job.Arguments.read ("ugGnr".toList.map fun c => (c, false)) true j.arguments
  match a.problem with
  | some m => j.misused m
  | none =>
    if a.has 'u' || a.has 'g' || a.has 'G' then
      j.writes (if a.has 'n' then "root\n" else "0\n").toList
    else j.writes "uid=0(root) gid=0(root) groups=0(root)\n".toList

/-- A utility that tells one thing. -/
def tells (s : String) : Utility := fun j =>
  match j.arguments with
  | [] => j.writes (s ++ "\n").toList
  | a :: _ => j.misused ("extra operand '" ++ String.ofList a ++ "'")

/-- The utilities and their names. -/
def utilities : List (String × Utility) :=
  [("true", Job.nothing), ("false", fun j => j.nothing.ending 1), ("echo", echo false),
    ("printf", printf), ("cat", cat), ("head", head), ("tail", tail), ("tr", tr), ("wc", wc),
    ("tee", tee), ("sort", sort), ("uniq", uniq), ("cut", cut), ("rev", rev), ("tac", tac),
    ("nl", nl), ("paste", paste), ("grep", grep), ("sed", sed), ("expr", expr), ("seq", seq),
    ("ls", ls),
    ("mkdir", mkdir), ("rmdir", rmdir), ("rm", rm), ("touch", touch), ("chmod", chmod), ("cp", cp),
    ("mv", mv), ("ln", ln), ("readlink", readlink), ("realpath", realpath), ("pwd", pwd),
    ("basename", basename), ("dirname", dirname), ("test", test), ("[", bracket), ("sleep", sleep),
    ("printenv", printenv), ("env", env), ("timeout", timeout), ("nohup", nohup), ("nice", nice),
    ("xargs", xargs), ("yes", yes), ("uname", uname), ("id", identity), ("whoami", tells "root"),
    ("arch", tells "x86_64"), ("sync", Job.nothing)]

end ClarityCheck.Host

import ClarityCheck.Host.Shell.Task

/-!
# Signals

The signals that a shell can be sent, by number and by name, and what they do to a shell that has
not said what it does on them.
-/

namespace ClarityCheck.Host.Shell.Signal

/-- The signals below those of real time: the number, the name and what a message calls it. -/
def table : List (Nat × String × String) :=
  [(1, "HUP", "Hangup"), (2, "INT", "Interrupt"), (3, "QUIT", "Quit"),
    (4, "ILL", "Illegal instruction"), (5, "TRAP", "Trace/breakpoint trap"), (6, "ABRT", "Aborted"),
    (7, "BUS", "Bus error"), (8, "FPE", "Floating point exception"), (9, "KILL", "Killed"),
    (10, "USR1", "User defined signal 1"), (11, "SEGV", "Segmentation fault"),
    (12, "USR2", "User defined signal 2"), (13, "PIPE", "Broken pipe"), (14, "ALRM", "Alarm clock"),
    (15, "TERM", "Terminated"), (16, "16", "Stack fault"), (17, "CHLD", "Child exited"),
    (18, "CONT", "Continued"), (19, "STOP", "Stopped (signal)"), (20, "TSTP", "Stopped"),
    (21, "TTIN", "Stopped (tty input)"), (22, "TTOU", "Stopped (tty output)"),
    (23, "URG", "Urgent I/O condition"), (24, "XCPU", "CPU time limit exceeded"),
    (25, "XFSZ", "File size limit exceeded"), (26, "VTALRM", "Virtual timer expired"),
    (27, "PROF", "Profiling timer expired"), (28, "WINCH", "Window changed"),
    (29, "IO", "I/O possible"), (30, "PWR", "Power failure"), (31, "SYS", "Bad system call")]

/-- The largest number of a signal. -/
def last : Nat := 64

/-- The name of a signal of real time. -/
def realTimeName (n : Nat) : String :=
  if n < 34 then toString n
  else if n = 34 then "RTMIN"
  else if n ≤ 49 then "RTMIN+" ++ toString (n - 34)
  else if n < 64 then "RTMAX-" ++ toString (64 - n)
  else "RTMAX"

/-- The name of a signal. -/
def name (n : Nat) : String :=
  match table.lookup n with
  | some (name, _) => name
  | none => realTimeName n

/-- What a message calls a signal that has ended a program. -/
def wording (n : Nat) : String :=
  match table.lookup n with
  | some (_, wording) => wording
  | none =>
    if n < 34 then "Unknown signal " ++ toString n else "Real-time signal " ++ toString (n - 34)

/-- A letter in upper case. -/
def upper (s : Raw) : String := String.ofList (s.map Char.toUpper)

/-- The number of a signal that is written as a number or as its name. -/
def number? (s : Raw) : Option Nat :=
  match Raw.nat? s with
  | some n => if n ≤ last then some n else none
  | none =>
    if upper s = "EXIT" then some 0
    else (List.range (last + 1)).find? fun n => n ≠ 0 && name n == upper s

/-- What a signal does to a shell that does not answer it. -/
inductive Effect where
  | nothing
  | stops
  | kills
  deriving DecidableEq, Repr

/-- The effect of a signal. -/
def effectOf (n : Nat) : Effect :=
  if n = 0 ∨ n = 17 ∨ n = 18 ∨ n = 23 ∨ n = 28 then .nothing
  else if 19 ≤ n ∧ n ≤ 22 then .stops
  else .kills

/-- A signal has no say in what a shell does on it. -/
def isSovereign (n : Nat) : Bool := n = 9 || n = 19

/-- The message about a program that a signal has ended, unless the signal is one of those that are
passed over. -/
def report (n : Nat) : Raw :=
  if n = 2 ∨ n = 13 then [] else (wording n).toList ++ ['\n']

end ClarityCheck.Host.Shell.Signal

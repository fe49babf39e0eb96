import ClarityCheck.Duration
import ClarityCheck.Path

/-!
# Requests to run a program

A request names a program and its arguments, the directory it runs in, how long it may take and how
much of its output is kept. Arguments never pass through a shell.
-/

namespace ClarityCheck.Run

/-- The time limit of a run that sets none. -/
def defaultTimeout : Duration := .ofSeconds 30

/-- The number of bytes kept of each output stream when no limit is set. -/
def defaultOutputLimit : Nat := 1024 * 1024

/-- A program to run and the limits it runs under. -/
structure Request where
  program : Path
  arguments : List Bytes := []
  directory : Option Path := none
  timeout : Duration := defaultTimeout
  outputLimit : Nat := defaultOutputLimit
  deriving DecidableEq, Repr

namespace Request

/-- A request without arguments and with the default limits. -/
def of (program : Path) : Request where
  program

/-- Appends an argument. -/
def argument (r : Request) (a : Bytes) : Request := { r with arguments := r.arguments ++ [a] }

/-- Appends an argument that is text. -/
def textArgument (r : Request) (a : String) : Request := r.argument (Text.Utf8.encode a.toList)

end Request

end ClarityCheck.Run

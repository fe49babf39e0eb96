/-!
# Diagnostics and verdicts

A diagnostic is a message about one line. A verdict sorts diagnostics by severity and keeps the
order they were found in.
-/

namespace ClarityCheck.Lint

/-- How bad a finding is. -/
inductive Severity where
  /-- The document is broken and will not compile. -/
  | error
  /-- The document is suspicious and may still compile. -/
  | warning
  deriving DecidableEq, Repr

/-- The word that stands for a severity in reports. -/
def Severity.name : Severity → String
  | .error => "error"
  | .warning => "warning"

/-- A message about one line; the first line has number 1. -/
structure Diagnostic where
  severity : Severity
  line : Nat
  message : String
  deriving DecidableEq, Repr

/-- The diagnostic as one line of a report. -/
def Diagnostic.text (d : Diagnostic) : String :=
  "line " ++ toString d.line ++ ": " ++ d.severity.name ++ ": " ++ d.message

/-- The diagnostic is an error. -/
def Diagnostic.isError (d : Diagnostic) : Bool := d.severity == .error

/-- The diagnostics of one document by severity, each list in the order of discovery. -/
structure Verdict where
  errors : List Diagnostic
  warnings : List Diagnostic
  deriving DecidableEq, Repr

namespace Verdict

/-- Sorts diagnostics by severity. -/
def ofDiagnostics (ds : List Diagnostic) : Verdict :=
  ⟨ds.filter (·.isError), ds.filter (fun d => !d.isError)⟩

/-- A document without errors is valid; warnings do not count. -/
def isValid (v : Verdict) : Bool := v.errors.isEmpty

/-- All diagnostics as a report lists them: errors, then warnings. -/
def diagnostics (v : Verdict) : List Diagnostic := v.errors ++ v.warnings

end Verdict

end ClarityCheck.Lint

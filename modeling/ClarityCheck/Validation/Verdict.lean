import ClarityCheck.Json.Reader
import ClarityCheck.Run.Outcome
import ClarityCheck.Text.Blank
import ClarityCheck.Text.Cut
import ClarityCheck.Validation.Response

/-!
# Verdicts of the compiler

`Verdict.classify` reads the outcome of a run of the compiler. The exit status alone decides
success. A success lists the lines of the error stream as diagnostics; a failure has a single error,
the first text there is of standard output, standard error and a description of the exit, or its
JSON message.
-/

namespace ClarityCheck.Validation

open ClarityCheck.Text

/-- The classified outcome of a run of the compiler. -/
structure Verdict where
  success : Bool
  stdout : String
  stderr : String
  errors : List String
  deriving DecidableEq, Repr

/-- The error when there is no compiler to run. -/
def compilerUnavailable : String := "compiler unavailable"

/-- The error of a validation that was cancelled before it began. -/
def cancelledEarly : String := "validation cancelled"

/-- The output of a successful run that printed nothing. -/
def successOutput : String := "validation successful"

/-- How a process ended that said nothing. -/
def exitDescription : Option Int → String
  | some n => "compiler exited with status " ++ toString n
  | none => "compiler terminated by a signal"

/-- The first member of these names, if it is text. A member that is not text counts like a missing
one. -/
def textMember? (names : List String) (v : Json) : Option String :=
  names.findSome? fun name => (v.get? name).bind Json.string?

/-- The message in a text that is JSON, or the text as it is. -/
def preferredMessage (text : String) : String :=
  ((Json.ofString? text).bind (textMember? ["message", "error"])).getD text

/-- The texts of the lines that are not blank, trimmed. -/
def diagnosticLines (text : String) : List String :=
  ((outputLines text.toList).map trim).filterMap fun l =>
    if l.isEmpty then none else some (String.ofList l)

namespace Verdict

/-- A failure with one message and no output. -/
def failure (message : String) : Verdict := ⟨false, "", "", [message]⟩

/-- The failure of a validation without a compiler. -/
def unavailable : Verdict := failure compilerUnavailable

/-- The error of a run that failed with an output. -/
def failureText (o : Run.Output) : String :=
  if !isBlankString o.stdout then preferredMessage o.stdout
  else if !isBlankString o.stderr then preferredMessage o.stderr
  else exitDescription o.status

/-- Classifies the outcome of a run. -/
def classify : Run.Outcome → Verdict
  | .ok o =>
    if o.success then ⟨true, o.stdout, o.stderr, diagnosticLines o.stderr⟩
    else ⟨false, o.stdout, o.stderr, [failureText o]⟩
  | .error f => failure (preferredMessage f.message)

/-- The response that a verdict leads to. -/
def toResponse (v : Verdict) : Response :=
  if v.success then
    let output := trimString v.stdout
    let diagnostics := trimString v.stderr
    ⟨true, if output = "" then successOutput else output,
      if diagnostics = "" then none else some diagnostics⟩
  else ⟨false, "", some (joinWith "\n" v.errors)⟩

end Verdict

end ClarityCheck.Validation

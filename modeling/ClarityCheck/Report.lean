import ClarityCheck.Lint.Verdict
import ClarityCheck.Validation.Response

/-!
# Reports

How results are shown: as text for people or as one line of JSON. The automatic choice is text on a
terminal and JSON elsewhere.
-/

namespace ClarityCheck.Report

/-- The format that a user asks for. -/
inductive Choice where
  | auto
  | human
  | json
  deriving DecidableEq, Repr

/-- The format of a report. -/
inductive Format where
  | human
  | json
  deriving DecidableEq, Repr

namespace Choice

/-- The word for a choice. -/
def name : Choice → String
  | .auto => "auto"
  | .human => "human"
  | .json => "json"

/-- All choices. -/
def all : List Choice := [.auto, .human, .json]

/-- The choice that a word stands for. -/
def ofName? (name : String) : Option Choice := all.find? (·.name == name)

/-- The format that a choice comes to. -/
def resolve (choice : Choice) (terminal : Bool) : Format :=
  match choice with
  | .auto => if terminal then .human else .json
  | .human => .human
  | .json => .json

end Choice

/-- The word for a format. -/
def Format.name : Format → String
  | .human => "human"
  | .json => "json"

/-- A value as a line of JSON. -/
def jsonLine (v : Json) : String := v.compress ++ "\n"

/-- A diagnostic as a JSON value; its severity shows in the list that it stands in. -/
def diagnosticJson (d : Lint.Diagnostic) : Json :=
  .obj [("line", .ofNat d.line), ("message", .str d.message)]

/-- Whether a document is valid and its diagnostics of both severities as a JSON value. -/
def verdictJson (valid : Bool) (errors warnings : List Lint.Diagnostic) : Json :=
  .obj [("isValid", .bool valid), ("errors", .arr (errors.map diagnosticJson)),
    ("warnings", .arr (warnings.map diagnosticJson))]

/-- The verdict of the structural check as a JSON value. -/
def lintJson (v : Lint.Verdict) : Json := verdictJson v.isValid v.errors v.warnings

/-- The verdict of the structural check as text: a line for each diagnostic and a line that counts
them. -/
def lintText (v : Lint.Verdict) : String :=
  String.join (v.diagnostics.map (·.text ++ "\n"))
    ++ if v.diagnostics.isEmpty then "no structural issues found\n"
      else toString v.errors.length ++ " error(s), " ++ toString v.warnings.length ++
        " warning(s)\n"

/-- The report of the structural check. -/
def lint (v : Lint.Verdict) : Format → String
  | .human => lintText v
  | .json => jsonLine (lintJson v)

/-- The response to a validation as text. -/
def validationText (r : Validation.Response) : String :=
  if r.success then
    "validation succeeded\n" ++ r.output ++ "\n"
      ++ match r.errors with
        | some d => "diagnostics:\n" ++ d ++ "\n"
        | none => ""
  else "validation failed: " ++ r.errors.getD "" ++ "\n"

/-- The report of a validation. -/
def validation (r : Validation.Response) : Format → String
  | .human => validationText r
  | .json => jsonLine r.toJson

end ClarityCheck.Report

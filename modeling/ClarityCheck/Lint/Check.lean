import ClarityCheck.Lint.Balance
import ClarityCheck.Lint.Form
import ClarityCheck.Lint.Verdict

/-!
# The structural check of a contract

`check` looks at a document as characters and lines, without a parser, and reports what would keep
it from compiling or looks like an oversight. The findings come in a fixed order: parentheses, the
missing declaration, the findings of each line in turn, and the missing response of a document with
public functions.
-/

namespace ClarityCheck.Lint

open ClarityCheck.Text

/-- What the check can find. -/
inductive Finding where
  /-- A closing parenthesis with no open form before it. -/
  | strayCloser
  /-- Forms still open at the end of the document. -/
  | unclosed (count : Nat)
  /-- Code without any declaration. -/
  | noDeclaration
  /-- A function form that names no function. -/
  | missingName (keyword : List Char)
  /-- A function name with characters that names may not hold. -/
  | invalidName (name : List Char)
  /-- A function whose line builds no response and opens no block. -/
  | noResult (name : List Char)
  /-- A data variable with fewer parts than it needs. -/
  | shortDataVar
  /-- A map with fewer parts than it needs. -/
  | shortDataMap
  /-- A use of the caller's identity on a line that checks nothing. -/
  | unguardedCaller
  /-- A document with public functions in which nothing builds a response. -/
  | noResponse
  deriving DecidableEq, Repr

namespace Finding

/-- The severity that a finding is reported with. -/
def severity : Finding → Severity
  | .noResult _ | .unguardedCaller | .noResponse => .warning
  | _ => .error

/-- The wording of a finding. -/
def message : Finding → String
  | .strayCloser => "unmatched closing parenthesis"
  | .unclosed n => toString n ++ " unclosed " ++ (if n = 1 then "parenthesis" else "parentheses")
  | .noDeclaration => "contract must contain at least one declaration."
  | .missingName keyword => "missing function name after " ++ String.ofList keyword
  | .invalidName name =>
    "invalid identifier '" ++ String.ofList name
      ++ "': function names may only use lowercase letters, digits, '-', '?' and '!'"
  | .noResult name =>
    "function '" ++ String.ofList name ++ "' should return a success/failure response (ok or err)"
  | .shortDataVar => "define-data-var requires a name, a type and an initial value"
  | .shortDataMap => "define-map requires a name, a key type and a value type"
  | .unguardedCaller =>
    "tx-sender used without is-eq or asserts! on the same line; possible missing authorization check"
  | .noResponse => "public functions must return (ok ...) or (err ...) but no response was found"

/-- The diagnostic that reports a finding on a line. -/
def onLine (f : Finding) (line : Nat) : Diagnostic := ⟨f.severity, line, f.message⟩

end Finding

/-! ## One line -/

/-- The words that a data variable or a map needs on its line, its head included. -/
def declarationWords : Nat := 4

/-- A trimmed line that holds code. -/
def isCode (line : List Char) : Bool := !line.isEmpty && !isComment line

/-- What is wrong with the name that a function form declares. -/
def nameFindings (keyword name : List Char) : List Finding :=
  if name.isEmpty then [.missingName keyword]
  else if name.all isNameChar then []
  else [.invalidName name]

/-- The findings of a line that opens with a function form. -/
def functionFindings (line keyword rest : List Char) : List Finding :=
  let name := declaredName rest
  nameFindings keyword name
    ++ if containsAnyForm responseHeads line || containsForm "begin".toList line then []
      else [.noResult name]

/-- The findings that depend on the form a line opens with. -/
def formFindings (line : List Char) : List Finding :=
  match leadingForm? line with
  | none => []
  | some (head, rest) =>
    if functionKeywords.contains head then functionFindings line head rest
    else if head == dataVar then
      if wordCount line < declarationWords then [.shortDataVar] else []
    else if head == dataMap then
      if wordCount line < declarationWords then [.shortDataMap] else []
    else []

/-- The finding on the use of the caller's identity. -/
def callerFindings (line : List Char) : List Finding :=
  if containsWord callerWord line && !containsAnyForm guardHeads line
    then [.unguardedCaller] else []

/-- The findings of one line. Blank lines and comments have none. -/
def lineFindings (line : List Char) : List Finding :=
  let code := trim line
  if isCode code then formFindings code ++ callerFindings code else []

/-! ## A whole document -/

/-- The findings of successive lines, the first of which has the given number. -/
def linesDiagnostics (line : Nat) : List (List Char) → List Diagnostic
  | [] => []
  | l :: ls => (lineFindings l).map (·.onLine line) ++ linesDiagnostics (line + 1) ls

/-- The diagnostics on parentheses: the stray closers in order, then the forms left open, reported
at the last line. -/
def balanceDiagnostics (lines : List (List Char)) : List Diagnostic :=
  let b := scanBalance 1 0 lines
  b.1.map Finding.strayCloser.onLine
    ++ if b.2 = 0 then [] else [(Finding.unclosed b.2).onLine lines.length]

/-- A document with code has to declare something. -/
def declarationDiagnostics (source : List Char) (lines : List (List Char)) : List Diagnostic :=
  if lines.any (fun l => isCode (trim l)) && !containsAnyForm declarationKeywords source then
    [Finding.noDeclaration.onLine 1]
  else []

/-- A document with public functions has to build a response somewhere. -/
def responseDiagnostics (source : List Char) : List Diagnostic :=
  if containsForm publicFunction source && !containsAnyForm responseHeads source then
    [Finding.noResponse.onLine 1]
  else []

/-- All diagnostics of a document in the order of the check. -/
def diagnostics (source : List Char) : List Diagnostic :=
  let lines := splitLines source
  balanceDiagnostics lines ++ declarationDiagnostics source lines ++ linesDiagnostics 1 lines
    ++ responseDiagnostics source

/-- The verdict on a contract's text. -/
def check (source : String) : Verdict := Verdict.ofDiagnostics (diagnostics source.toList)

end ClarityCheck.Lint

/-!
# Refused command lines

Why a command line is refused, what might help, and the usage line that goes with it, all put
together to one text.
-/

namespace ClarityCheck.CommandLine

/-- What is wrong with a command line. -/
inductive Fault where
  /-- A word names no subcommand. -/
  | unknownSubcommand (word : String)
  /-- A word stands where none of its kind may. -/
  | unexpected (word : String)
  /-- A switch has a value. -/
  | unexpectedValue (value switch : String)
  /-- An operand is missing. -/
  | missingOperand (operand : String)
  /-- An argument lacks its value, or has an empty one. -/
  | missingValue (argument : String) (possible : List String)
  /-- The value of an argument is none of those that are possible. -/
  | notPossible (value argument : String) (possible : List String)
  /-- The value of an argument cannot be read. -/
  | unreadable (value argument reason : String)
  /-- An option is given twice. -/
  | repeated (argument : String)
  /-- A subcommand is missing. -/
  | missingSubcommand (program : String) (names : List String)
  /-- A word that has to be text is none. -/
  | notText
  deriving DecidableEq, Repr

/-- What might help. -/
inductive Tip where
  /-- Another word is close to the one that was written. -/
  | similar (kind word : String)
  /-- Several subcommands are close to the word that was written. -/
  | similarSubcommands (names : List String)
  /-- An option belongs to a subcommand. -/
  | belongsTo (subcommand option : String)
  /-- A word with a dash can be an operand. -/
  | asOperand (word : String)
  /-- Two dashes hide a subcommand. -/
  | hidden (subcommand : String)
  deriving DecidableEq, Repr

/-- A refused command line. -/
structure Refusal where
  fault : Fault
  tips : List Tip := []
  usage : Option String := none
  deriving DecidableEq, Repr

/-- A word between apostrophes. -/
def apostrophes (word : String) : String := "'" ++ word ++ "'"

/-- Words with commas between them. -/
def commas (words : List String) : String := ", ".intercalate words

/-- The line that lists what is possible, if there is anything to list. -/
def bracketed (title : String) : List String → String
  | [] => ""
  | words => "\n  [" ++ title ++ ": " ++ commas words ++ "]"

/-- The wording of a fault. -/
def Fault.message : Fault → String
  | .unknownSubcommand word => "unrecognized subcommand " ++ apostrophes word
  | .unexpected word => "unexpected argument " ++ apostrophes word ++ " found"
  | .unexpectedValue value switch =>
    "unexpected value " ++ apostrophes value ++ " for " ++ apostrophes switch
      ++ " found; no more were expected"
  | .missingOperand operand => "the following required arguments were not provided:\n  " ++ operand
  | .missingValue argument possible =>
    "a value is required for " ++ apostrophes argument ++ " but none was supplied"
      ++ bracketed "possible values" possible
  | .notPossible value argument possible =>
    "invalid value " ++ apostrophes value ++ " for " ++ apostrophes argument
      ++ bracketed "possible values" possible
  | .unreadable value argument reason =>
    "invalid value " ++ apostrophes value ++ " for " ++ apostrophes argument ++ ": " ++ reason
  | .repeated argument =>
    "the argument " ++ apostrophes argument ++ " cannot be used multiple times"
  | .missingSubcommand program names =>
    apostrophes program ++ " requires a subcommand but one was not provided"
      ++ bracketed "subcommands" names
  | .notText => "invalid UTF-8 was detected in one or more arguments"

/-- The wording of a tip. -/
def Tip.message : Tip → String
  | .similar kind word => "a similar " ++ kind ++ " exists: " ++ apostrophes word
  | .similarSubcommands names =>
    "some similar subcommands exist: " ++ commas (names.map apostrophes)
  | .belongsTo subcommand option => apostrophes (subcommand ++ " " ++ option) ++ " exists"
  | .asOperand word =>
    "to pass " ++ apostrophes word ++ " as a value, use " ++ apostrophes ("-- " ++ word)
  | .hidden subcommand =>
    "subcommand " ++ apostrophes subcommand ++ " exists; to use it, remove the '--' before it"

/-- The text of a refusal. -/
def Refusal.text (r : Refusal) : String :=
  "error: " ++ r.fault.message
    ++
      (if r.tips = [] then ""
        else "\n" ++ String.join (r.tips.map fun t => "\n  tip: " ++ t.message))
    ++ (match r.usage with
      | some line => "\n\nUsage: " ++ line
      | none => "")
    ++ "\n\nFor more information, try '--help'.\n"

end ClarityCheck.CommandLine

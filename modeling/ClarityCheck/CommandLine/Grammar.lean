import ClarityCheck.CommandLine.Refusal
import ClarityCheck.CommandLine.Word
import ClarityCheck.Text.Similar

/-!
# What a command line may hold

A grammar lists the options that take a value, the operand, and the subcommands. Every grammar has a
switch that asks for help. Each value is read into what it stands for as soon as it is complete.
-/

namespace ClarityCheck.CommandLine

/-- Why a value is not read. -/
inductive ValueFault where
  /-- An empty value, where there has to be one. -/
  | empty
  /-- None of the values that are possible. -/
  | notPossible
  /-- A value that does not make sense. -/
  | unreadable (reason : String)
  /-- Bytes that are no text. -/
  | notText
  deriving DecidableEq, Repr

/-- Reads a value. -/
abbrev ValueReader (α : Type) := Bytes → Except ValueFault α

/-- Reads any text. -/
def readText : ValueReader String := fun bs =>
  match text? bs with
  | some s => .ok s
  | none => .error .notText

/-- An option that takes a value. -/
structure Valued (α : Type) where
  name : String
  letter : Option Char := none
  placeholder : String
  possible : List String := []
  /-- Usage lines do not show the option. -/
  isHidden : Bool := false
  read : ValueReader α

/-- The operand of a command. -/
structure Operand (ω : Type) where
  placeholder : String
  read : ValueReader ω

/-- What a command line may hold: options whose values stand for an `α`, and an operand that stands
for an `ω`. -/
structure Grammar (α ω : Type) where
  /-- The words that call the command. -/
  program : String
  options : List (Valued α)
  hasVersion : Bool := false
  operand : Option (Operand ω) := none
  /-- The subcommands, each with the full names of its options. -/
  commands : List (String × List String) := []

/-- A name with two dashes in front. -/
def dashed (name : String) : String := "--" ++ name

/-- A placeholder in angle brackets. -/
def angled (placeholder : String) : String := "<" ++ placeholder ++ ">"

/-- An option as usage lines show it. -/
def Valued.shown {α : Type} (o : Valued α) : String := dashed o.name ++ " " ++ angled o.placeholder

/-- An operand as usage lines show it. -/
def Operand.shown {ω : Type} (o : Operand ω) : String := angled o.placeholder

/-- A switch that asks for information. -/
inductive Switch where
  | help
  | version
  deriving DecidableEq, Repr

/-- The full name of a switch. -/
def Switch.name : Switch → String
  | .help => "help"
  | .version => "version"

/-- The letter of a switch. -/
def Switch.letter : Switch → Char
  | .help => 'h'
  | .version => 'V'

namespace Grammar

variable {α ω : Type}

/-- The switches of a grammar. -/
def switches (g : Grammar α ω) : List Switch := if g.hasVersion then [.help, .version] else [.help]

/-- The full names of all options and switches. -/
def names (g : Grammar α ω) : List String := g.options.map (·.name) ++ g.switches.map (·.name)

/-- The option of a full name. -/
def option? (g : Grammar α ω) (name : Bytes) : Option (Valued α) :=
  g.options.find? fun o => bytesOf o.name == name

/-- The switch of a full name. -/
def switch? (g : Grammar α ω) (name : Bytes) : Option Switch :=
  g.switches.find? fun s => bytesOf s.name == name

/-- The option of a letter. -/
def optionOfLetter? (g : Grammar α ω) (c : Char) : Option (Valued α) :=
  g.options.find? fun o => o.letter == some c

/-- The switch of a letter. -/
def switchOfLetter? (g : Grammar α ω) (c : Char) : Option Switch :=
  g.switches.find? fun s => s.letter == c

/-- The subcommand that a word names. -/
def command? (g : Grammar α ω) (word : Bytes) : Option String :=
  (g.commands.map (·.1)).find? fun name => bytesOf name == word

/-- An option that usage lines show. -/
def isShown (g : Grammar α ω) (option : String) : Bool :=
  !(g.options.any fun o => o.isHidden && o.shown == option)

/-- The end of every usage line. -/
def usageEnd (g : Grammar α ω) : List String :=
  if g.commands.isEmpty then [] else [angled "COMMAND"]

/-- The usage line that follows when `given` are the options that were given; without any, it stands
for all that may be given. -/
def usage (g : Grammar α ω) (given : List String) : String :=
  let given := given.filter g.isShown
  let options :=
    if given = [] then (if g.options.isEmpty then [] else ["[OPTIONS]"])
    else given.filter fun s => some s ≠ g.operand.map Operand.shown
  " ".intercalate (g.program :: options ++ g.operand.toList.map Operand.shown ++ g.usageEnd)

/-- All that may be given, as one choice. -/
def choice (g : Grammar α ω) : String :=
  angled ("|".intercalate (g.operand.toList.map (·.placeholder) ++ g.options.map Valued.shown))

/-- The usage line for a switch. Once something has been given, all that may be given is shown as
one choice. -/
def usageOfSwitch (g : Grammar α ω) (s : Switch) (given : List String) : String :=
  let others := if given = [] then g.operand.toList.map Operand.shown else [g.choice]
  " ".intercalate (g.program :: dashed s.name :: others ++ g.usageEnd)

end Grammar

end ClarityCheck.CommandLine

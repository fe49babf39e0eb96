import ClarityCheck.CommandLine.Scan
import ClarityCheck.Path
import ClarityCheck.Settings.Decode
import ClarityCheck.Settings.Layer

/-!
# Settings on the command line

Every setting has an option of its own, and one more option names the configuration file. These
options come first on a command line, and what follows is a command.
-/

namespace ClarityCheck.Settings.Flags

open CommandLine

/-- What an option says. -/
inductive Flag where
  /-- The configuration file. -/
  | file (path : Path)
  /-- The value of a setting. -/
  | setting (key : Key) (value : Json)

/-! ## Names -/

/-- The name of the option for the configuration file. -/
def fileOption : String := "config-path"

/-- The name of the option for a setting: its name in documents with dashes. -/
def optionName (key : Key) : String := key.name.map fun c => if c = '_' then '-' else c

/-- The placeholder for the value of a setting: its name in capitals. -/
def placeholder (key : Key) : String :=
  key.name.map fun c => if 'a' ≤ c ∧ c ≤ 'z' then Char.ofNat (c.toNat - 32) else c

/-- The letter of the option for a setting, if it has one: the first of its name, as a small or a
capital letter, that no setting before it has. -/
def letter? : Key → Option Char
  | .logFilter => some 'l'
  | .logFormat => some 'L'
  | .compilerVersion => some 'c'
  | .releaseBase => some 'r'
  | .cacheDirectory => some 'C'
  | .hostedVariable => some 'H'
  | .hostedBinary => none
  | .workspaceRoot => some 'w'
  | .checkSeconds => none
  | .probeSeconds => some 'p'
  | .downloadSeconds => some 'd'
  | .outputLimit => some 'm'
  | .downloadPolicy => some 'D'

/-- The full names of all options. -/
def optionNames : List String := fileOption :: Key.all.map optionName

/-! ## Values -/

/-- Reads digits behind a number that has been read, as long as it stays below `2 ^ 64`. -/
def readDigits (n : Nat) : List Char → Except String Nat
  | [] => .ok n
  | c :: s =>
    if c.isDigit then
      let n := 10 * n + (c.toNat - 0x30)
      if n < 0x1_0000_0000_0000_0000 then readDigits n s
      else .error "number too large to fit in target type"
    else .error "invalid digit found in string"

/-- Reads a natural number below `2 ^ 64`, perhaps with a plus sign. -/
def readNumber (s : List Char) : Except String Nat :=
  match s with
  | [] => .error "cannot parse integer from empty string"
  | ['+'] => .error "invalid digit found in string"
  | '+' :: s => readDigits 0 s
  | s => readDigits 0 s

/-- Reads the value of a setting. -/
def readValue (key : Key) (text : String) : Except String Json :=
  match key with
  | .logFormat =>
    match LogFormat.ofWord? text with
    | some f => .ok (.str f.name)
    | none => .error noSuchValue
  | .downloadPolicy =>
    match DownloadPolicy.ofWord? text with
    | some p => .ok (.str p.name)
    | none => .error noSuchValue
  | .checkSeconds | .probeSeconds | .downloadSeconds | .outputLimit =>
    (readNumber text.toList).map .ofNat
  | _ => .ok (.str text)

/-- The option for a setting. -/
def option (key : Key) : Valued Flag where
  name := optionName key
  letter := letter? key
  placeholder := placeholder key
  read bs :=
    match readText bs with
    | .error e => .error e
    | .ok text =>
      match readValue key text with
      | .error reason => .error (.unreadable reason)
      | .ok v => .ok (.setting key v)

/-- The option for the configuration file. -/
def fileValued : Valued Flag where
  name := fileOption
  placeholder := "PATH"
  isHidden := true
  read bs := if bs = [] then .error .empty else .ok (.file ⟨bs⟩)

/-- The options for settings, behind the words that call the tool. -/
def grammar (tool : String) : Grammar Flag Empty where
  program := tool
  options := fileValued :: Key.all.map option

/-! ## At the front of a command line -/

/-- For a word that is one of the options, whether it holds its value itself. -/
def isOption? (word : Bytes) : Option Bool :=
  match Word.ofBytes word with
  | .long name value => if optionNames.any (bytesOf · == name) then some value.isSome else none
  | _ => none

/-! ## What options say -/

/-- The settings that options give. -/
def layer (flags : List Flag) : Layer :=
  flags.filterMap fun
    | .setting key v => some (key.name, v)
    | .file _ => none

/-- The configuration file that options name. -/
def file? (flags : List Flag) : Option Path :=
  flags.findSome? fun
    | .file p => some p
    | .setting .. => none

end ClarityCheck.Settings.Flags

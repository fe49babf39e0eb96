import ClarityCheck.Environment
import ClarityCheck.Files.Change
import ClarityCheck.Settings.Layer
import ClarityCheck.Toml.Edition

/-!
# Configuration files

Where a configuration file may lie, and what it holds. A file that the command line names has to be
there. Of the others the first that can be read counts, and none needs to be there.
-/

namespace ClarityCheck.Settings.Source

open ClarityCheck.Text

/-- A configuration file that cannot be used. -/
structure FileError where
  path : Path
  reason : String
  deriving DecidableEq, Repr

/-- The wording of a file that cannot be used. -/
def FileError.message (e : FileError) : String :=
  "Configuration file error in '" ++ e.path.display ++ "': " ++ e.reason

/-- The wording for a file that has to be there and is not. -/
def requiredFileMissing : String := "required configuration file not found"

/-- The wording for a file that is no text. -/
def noText : String := "stream did not contain valid UTF-8"

/-- The name of the configuration file in a directory that holds other things as well. -/
def hiddenName : Path := .ofString ".clarigate.toml"

/-- The variable that names a configuration file. -/
def fileVariable : String := "CLARIGATE_CONFIG_PATH"

/-- The path that a variable names, if it names one. -/
def named? (e : Environment) (name : String) : Option Path :=
  ((e.get? name).filter (· ≠ "")).map Path.ofString

/-- The configuration files in a directory for configuration. -/
def inDirectory (d : Path) : List Path :=
  [d.join (.ofString "clarigate/config.toml"), d.join hiddenName]

/-- The directories for configuration of the whole system. -/
def systemDirectories (e : Environment) : List Path :=
  match e.get? "XDG_CONFIG_DIRS" with
  | some ds => Path.listed (Utf8.encode ds.toList)
  | none => [.ofString "/etc/xdg"]

/-- Where a configuration file may lie, the place that counts most first. -/
def candidates (e : Environment) : List Path :=
  let home := (named? e "HOME").toList
  (named? e fileVariable).toList
    ++ (named? e "XDG_CONFIG_HOME").toList.flatMap inDirectory
    ++ (systemDirectories e).flatMap inDirectory
    ++ home.flatMap (fun h => inDirectory (h.join (.ofString ".config")))
    ++ home.map (·.join hiddenName)
    ++ [hiddenName]

/-- What a configuration file holds, and why it cannot be put together with other layers, if it
cannot: that takes a file by the rules of the first edition. -/
structure Content where
  layer : Layer
  refusal : Option String

/-- The content of no file. -/
def Content.empty : Content := ⟨[], none⟩

/-- What a configuration file holds. -/
def read (files : Files) (p : Path) : Except FileError Content :=
  let shown := (files.canonical p).toOption.getD p
  match files.read p with
  | .error e => .error ⟨shown, e.message⟩
  | .ok content =>
    match Utf8.decode? content with
    | none => .error ⟨shown, noText⟩
    | some text =>
      match Toml.ofString (String.ofList text) with
      | .ok members => .ok ⟨members, Toml.Edition.refusal? (String.ofList text)⟩
      | .error reason => .error ⟨shown, reason⟩

/-- What a file holds that has to be there. -/
def readRequired (files : Files) (p : Path) : Except FileError Content :=
  if files.isFile p then read files p else .error ⟨p, requiredFileMissing⟩

/-- What the first file holds that can be read, and the errors of those before it. -/
def firstReadable (files : Files) : List Path → List FileError × Option Content
  | [] => ([], none)
  | p :: ps =>
    if files.isFile p then
      match read files p with
      | .ok c => ([], some c)
      | .error e => (e :: (firstReadable files ps).1, (firstReadable files ps).2)
    else firstReadable files ps

/-- Drops paths that lead to the same place as an earlier one. -/
def distinct (files : Files) (ps : List Path) : List Path :=
  ps.foldl (fun before p =>
    if before.any fun q => q.absolute files.currentPath == p.absolute files.currentPath then before
    else before ++ [p]) []

/-- What the configuration file holds, or the errors of the files that cannot be used, of which
there is one at least. A file that is named on the command line has to be usable; others matter only
when none is. -/
def content (files : Files) (e : Environment) (required : Option Path) :
    Except (FileError × List FileError) Content :=
  match required with
  | some p => (readRequired files p).mapError (·, [])
  | none =>
    match firstReadable files (distinct files (candidates e)) with
    | (_, some c) => .ok c
    | ([], none) => .ok .empty
    | (first :: others, none) => .error (first, others)

end ClarityCheck.Settings.Source

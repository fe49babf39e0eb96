import ClarityCheck.Host.Utility.Table
import ClarityCheck.Text.Cut

/-!
# Finding programs

A program is a utility of the host or its shell. A file can be started as well when its first line
names the program that interprets it. A name without slashes is searched for along a path of
directories.
-/

namespace ClarityCheck.Host

/-- Something that can be started. -/
inductive Program where
  | utility (run : Utility)
  | shell

/-- A program as it is started from a file. -/
structure Image where
  program : Program
  /-- The name that the program sees, when it is not the one that it was called by. -/
  name : Option Raw
  /-- The arguments in front of those it was called with. -/
  leading : List Raw

namespace Program

/-- The directory of the utilities. -/
def utilityDirectory : Location := (Path.ofString "/usr/bin").names

/-- The names of the shell. -/
def shellNames : List String := ["sh", "dash", "bash"]

/-- The program of the host that stands at a location. -/
def builtIn? (l : Location) : Option Program :=
  if l.dropLast = utilityDirectory then
    let name := String.ofList (Raw.ofBytes (l.getLastD []))
    if shellNames.contains name then some .shell else (utilities.lookup name).map .utility
  else none

/-- The files of the programs of the host. -/
def installed : List (Location × Node) :=
  (shellNames ++ utilities.map (·.1)).map fun n =>
    (utilityDirectory ++ [Raw.bytes n.toList], .file [] .program)

/-! ## Interpreters -/

/-- The number of characters of a file that are searched for its interpreter. -/
def lineLimit : Nat := 255

/-- A blank in the line of an interpreter. -/
def isGap (c : Char) : Bool := c == ' ' || c == '\t'

/-- The interpreter that the first line of a file names, and the argument for it. The line is cut
when it is too long, but not within the name. -/
def interpreter? (content : Raw) : Option (Raw × Option Raw) :=
  match content with
  | '#' :: '!' :: text =>
    let shown := text.take (lineLimit - 2)
    let line := shown.takeWhile (· ≠ '\n')
    let isCut := line.length = shown.length && lineLimit ≤ content.length
    let line := ((line.dropWhile isGap).reverse.dropWhile isGap).reverse
    let name := line.takeWhile fun c => !isGap c && c != '\x00'
    let rest := line.drop name.length
    if name.isEmpty || (isCut && rest.isEmpty) then none
    else
      let argument := (rest.dropWhile isGap).takeWhile (· ≠ '\x00')
      some (name, if rest.head? = some '\x00' ∨ argument = [] then none else some argument)
  | _ => none

/-- How many interpreters are followed, each of which is a file with an interpreter. -/
def interpreterLimit : Nat := 5

/-- The program that stands at a path. Interpreters are followed at most `fuel` times. -/
def loadWithin (files : Files) : (fuel : Nat) → Path → Except SystemError Image
  | fuel, p =>
    match files.locate true p with
    | .error e => .error e
    | .ok l =>
      match files.get? l with
      | some .directory | some (.device _) | some (.link _) => .error .denied
      | some (.file content permissions) =>
        if !permissions.allowsRunning then .error .denied
        else
          match builtIn? l, interpreter? (Raw.ofBytes content) with
          | some program, _ => .ok ⟨program, none, []⟩
          | none, none => .error .badExecutable
          | none, some (name, argument) =>
            match fuel with
            | 0 => .error .linkLoop
            | fuel + 1 =>
              match loadWithin files fuel (Raw.path name) with
              | .error e => .error e
              | .ok image =>
                .ok { image with
                  name := image.name.or (some name)
                  leading := image.leading ++ argument.toList ++ [Raw.ofPath p] }
      | none =>
        match builtIn? l with
        | some program => .ok ⟨program, none, []⟩
        | none => .error .notFound

/-- The program that stands at a path. -/
def load (files : Files) (p : Path) : Except SystemError Image :=
  loadWithin files interpreterLimit p

/-! ## Searching -/

/-- The directories that are searched when no path is given. -/
def defaultSearchPath : Raw := "/bin:/usr/bin".toList

/-- The first program of a name along a path, with the place where it stands. A file that may not be
run is passed over, and is the reason when nothing else is found. -/
def searchFrom (files : Files) (name : Raw) (failure : SystemError) :
    List Raw → Except SystemError (Path × Image)
  | [] => .error failure
  | d :: ds =>
    let place := (Raw.path d).join (Raw.path name)
    match load files place with
    | .ok image => .ok (place, image)
    | .error .denied => searchFrom files name .denied ds
    | .error e =>
      if e.kindOf = .notFound ∨ e.kindOf = .notADirectory then
        searchFrom files name (if failure = .denied then failure else e) ds
      else .error e

/-- The program that a name stands for, with the place where it stands. -/
def find (files : Files) (searchPath : Option Raw) (name : Raw) :
    Except SystemError (Path × Image) :=
  if name = [] then .error .notFound
  else if name.contains '/' then (load files (Raw.path name)).map fun image =>
    (Raw.path name, image)
  else
    searchFrom files name .notFound (Text.splitOn ':' (searchPath.getD defaultSearchPath))

end Program

end ClarityCheck.Host

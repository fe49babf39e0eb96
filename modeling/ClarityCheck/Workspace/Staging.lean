import ClarityCheck.Contract
import ClarityCheck.Files.Change
import ClarityCheck.Text.Quoted
import ClarityCheck.Workspace.Manifest

/-!
# Staging a contract

The compiler checks whole projects, so each contract is put into a project of its own: a new
directory below a root, with a manifest and the contract's text. Staging that fails leaves no such
directory behind, and a staged project goes away as a whole.
-/

namespace ClarityCheck.Workspace

open ClarityCheck.Text

/-- Why a contract could not be staged. -/
inductive StagingError where
  /-- A directory could not be created. -/
  | noDirectory (path : Path) (error : SystemError)
  /-- A file could not be written. -/
  | notWritten (path : Path) (error : SystemError)
  deriving DecidableEq, Repr

/-- The wording of a staging error. -/
def StagingError.message : StagingError → String
  | .noDirectory p e => "failed to create workspace directory " ++ p.display ++ ": " ++ e.message
  | .notWritten p e => "failed to write " ++ p.display ++ ": " ++ e.message

/-- A staged project. -/
structure Project where
  directory : Path
  manifestPath : Path
  sourcePath : Path
  deriving DecidableEq, Repr

/-- The project in a directory with a contract of the given name. -/
def Project.at_ (directory : Path) (name : String) : Project where
  directory
  manifestPath := directory.join (.ofString manifestFile)
  sourcePath := (directory.join (.ofString contractsDirectory)).join (.ofString (contractFile name))

/-! ## Directory names -/

/-- A character of the second half of a directory name. -/
def nameDigit (n : Nat) : Char :=
  if n < 10 then Char.ofNat (0x30 + n) else Char.ofNat (0x61 + (n - 10))

/-- Six characters that a number ends in. -/
def nameTail (n : Nat) : List Char :=
  [5, 4, 3, 2, 1, 0].map fun i => nameDigit (n / Nat.pow 36 i % 36)

/-- The directory name that belongs to a ticket. Different tickets have different names. -/
def directoryName (ticket : Nat) : String :=
  "clarigate-" ++ toString ticket ++ "-" ++ String.ofList (nameTail ticket)

/-- The first ticket from a given one on, of at most `fuel`, whose directory can be created. -/
def createFresh (files : Files) (root : Path) : Nat → Nat →
    Except SystemError (Path × Files) × Nat
  | 0, ticket => (.error .exists_, ticket)
  | fuel + 1, ticket =>
    let directory := root.join (.ofString (directoryName ticket))
    match files.createDirectory directory with
    | .ok files => (.ok (directory, files), ticket + 1)
    | .error e =>
      if e.kindOf = .alreadyExists then createFresh files root fuel (ticket + 1)
      else (.error (.text e.kindOf (e.message ++ " at path " ++ quotedBytes directory.bytes)),
        ticket)

/-- The root as an absolute path. -/
def absoluteRoot (files : Files) (root : Path) : Except SystemError Path :=
  if root.isAbsolute then .ok root
  else if files.hasDirectory files.directory then .ok (files.currentPath.join root)
  else .error .notFound

/-- Creates a directory below the root that did not exist. -/
def createBelow (files : Files) (root : Path) (ticket : Nat) :
    Except SystemError (Path × Files) × Nat :=
  match absoluteRoot files root with
  | .error e => (.error e, ticket)
  | .ok root => createFresh files root (files.nodes.length + 1) ticket

/-! ## Staging -/

/-- Writes a file of the project. -/
def writeFile (files : Files) (p : Path) (content : String) : Except StagingError Files :=
  (files.write p (Utf8.encode content.toList)).mapError (.notWritten p)

/-- Fills the directory of a project. The files it has come to are given also when a step fails. -/
def populate (files : Files) (p : Project) (contract : Contract) :
    Except StagingError Unit × Files :=
  let contracts := p.directory.join (.ofString contractsDirectory)
  match files.createDirectory contracts with
  | .error e => (.error (.noDirectory contracts e), files)
  | .ok files =>
    match writeFile files p.manifestPath (manifest contract.name) with
    | .error e => (.error e, files)
    | .ok files =>
      match writeFile files p.sourcePath contract.body with
      | .error e => (.error e, files)
      | .ok files => (.ok (), files)

/-- Removes a directory with everything in it, if that is possible. -/
def discard (files : Files) (directory : Path) : Files :=
  match files.removeTree directory with
  | .ok files => files
  | .error _ => files

/-- Stages a contract below a root. The answer holds the next ticket and the files, which change
also when staging fails: missing parents of the root stay. -/
def stage (root : Path) (contract : Contract) (ticket : Nat) (files : Files) :
    Except StagingError Project × Nat × Files :=
  match files.createDirectories root with
  | (.error e, files) => (.error (.noDirectory root e), ticket, files)
  | (.ok (), files) =>
    match createBelow files root ticket with
    | (.error e, ticket) => (.error (.noDirectory root e), ticket, files)
    | (.ok (directory, files), ticket) =>
      let project := Project.at_ directory contract.name
      match populate files project contract with
      | (.error e, files) => (.error e, ticket, discard files directory)
      | (.ok (), files) => (.ok project, ticket, files)

/-- Removes a staged project. -/
def Project.close (p : Project) (files : Files) : Except SystemError Files :=
  (files.removeTree p.directory).mapError fun e =>
    .text e.kindOf (e.message ++ " at path " ++ quotedBytes p.directory.bytes)

/-- Removes a staged project, if that is possible. -/
def Project.drop (p : Project) (files : Files) : Files := discard files p.directory

end ClarityCheck.Workspace

import ClarityCheck.Files.Disk
import ClarityCheck.Workspace.Handle

/-!
# Staging on a disk that may fail

The steps of staging one by one, each of which may meet with a mishap. From the moment on when the
directory of a project has been created, a handle holds it. When a later step fails, the directory
is taken out of the handle and removed, and the handle, now empty, is let go.
-/

namespace ClarityCheck.Workspace

open ClarityCheck.Text

/-- How long new names for a directory are tried, and the error when none has been free. -/
structure Retries where
  tries : Nat
  exhausted : SystemError

/-- The first ticket from a given one on, of at most `fuel`, whose directory can be created. -/
def createFreshOn (mishaps : Mishaps) (exhausted : SystemError) (root : Path) :
    (fuel ticket : Nat) → Disk → Except SystemError Path × Nat × Disk
  | 0, ticket, d => (.error exhausted, ticket, d)
  | fuel + 1, ticket, d =>
    let directory := root.join (.ofString (directoryName ticket))
    match d.createDirectory mishaps directory with
    | (.ok (), d) => (.ok directory, ticket + 1, d)
    | (.error e, d) =>
      if e.kindOf = .alreadyExists then createFreshOn mishaps exhausted root fuel (ticket + 1) d
      else
        (.error (.text e.kindOf (e.message ++ " at path " ++ quotedBytes directory.bytes)),
          ticket, d)

/-- Creates a directory below the root that did not exist. -/
def createBelowOn (mishaps : Mishaps) (retries : Retries) (root : Path) (ticket : Nat) (d : Disk) :
    Except SystemError Path × Nat × Disk :=
  match absoluteRoot d.files root with
  | .error e => (.error e, ticket, d)
  | .ok root => createFreshOn mishaps retries.exhausted root retries.tries ticket d

/-- Writes a file of the project. -/
def writeFileOn (mishaps : Mishaps) (p : Path) (content : String) (d : Disk) :
    Except StagingError Unit × Disk :=
  match d.write mishaps p (Utf8.encode content.toList) with
  | (.error e, d) => (.error (.notWritten p e), d)
  | (.ok (), d) => (.ok (), d)

/-- Fills the directory of a project. -/
def populateOn (mishaps : Mishaps) (p : Project) (contract : Contract) (d : Disk) :
    Except StagingError Unit × Disk :=
  let contracts := p.directory.join (.ofString contractsDirectory)
  match d.createDirectory mishaps contracts with
  | (.error e, d) => (.error (.noDirectory contracts e), d)
  | (.ok (), d) =>
    match writeFileOn mishaps p.manifestPath (manifest contract.name) d with
    | (.error e, d) => (.error e, d)
    | (.ok (), d) => writeFileOn mishaps p.sourcePath contract.body d

/-- Lets a handle go: a directory that it still holds is removed. -/
def Handle.dropOn (h : Handle) (d : Disk) : Disk :=
  if h.holds then (d.removeTree h.project.directory).2 else d

/-- Takes the directory out of a handle and removes it, then lets the empty handle go. -/
def Handle.discardOn (h : Handle) (d : Disk) : Disk :=
  let d := if h.holds then (d.removeTree h.project.directory).2 else d
  h.emptied.dropOn d

/-- Stages a contract below a root. -/
def stageOn (mishaps : Mishaps) (retries : Retries) (root : Path) (contract : Contract)
    (ticket : Nat) (d : Disk) : Except StagingError Handle × Nat × Disk :=
  match d.createDirectories mishaps root with
  | (.error e, d) => (.error (.noDirectory root e), ticket, d)
  | (.ok (), d) =>
    match createBelowOn mishaps retries root ticket d with
    | (.error e, ticket, d) => (.error (.noDirectory root e), ticket, d)
    | (.ok directory, ticket, d) =>
      let handle := Handle.of (.at_ directory contract.name)
      match populateOn mishaps handle.project contract d with
      | (.error e, d) => (.error e, ticket, handle.discardOn d)
      | (.ok (), d) => (.ok handle, ticket, d)

end ClarityCheck.Workspace

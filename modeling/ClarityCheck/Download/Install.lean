import ClarityCheck.Download.Fetcher
import ClarityCheck.Files.Change

/-!
# Storing what a server sends

A body is written to a file beside its destination, and takes the destination's place when it is
complete. When anything goes wrong that file is removed, so that the destination holds either what
it held before or all of the body.
-/

namespace ClarityCheck.Download

/-- What a server answers, redirections followed. -/
inductive Reply where
  /-- No answer arrives. -/
  | noAnswer (cause : String)
  /-- An answer with a status and a body in chunks, which may break off. -/
  | answer (status : Nat) (chunks : List Bytes) (brokenOff : Option SystemError)

/-- Servers that can be asked for what a URL leads to. -/
abbrev Network (σ : Type) := Url → Duration → Scene σ → Reply × Scene σ

/-- A status that stands for success. -/
def isSuccess (status : Nat) : Bool := 200 ≤ status && status ≤ 299

/-- The file beside a destination that a body is written to. -/
def partialPath (destination : Path) : Path :=
  destination.withExtension (Text.Utf8.encode "partial".toList)

/-- Writes a body to a file. -/
def writeBody (files : Files) (p : Path) (chunks : List Bytes) (brokenOff : Option SystemError) :
    Except SystemError Nat × Files :=
  match files.write p chunks.flatten with
  | .error e => (.error e, files)
  | .ok files =>
    match brokenOff with
    | some e => (.error e, files)
    | none => (.ok chunks.flatten.length, files)

/-- Removes a file, if it is there and can be removed. -/
def discard (files : Files) (p : Path) : Files :=
  match files.removeFile p with
  | .ok files => files
  | .error _ => files

/-- Stores a body at its destination, and gives the number of its bytes. -/
def install (files : Files) (destination : Path) (chunks : List Bytes)
    (brokenOff : Option SystemError) : Except Failure Nat × Files :=
  let beside := partialPath destination
  match writeBody files beside chunks brokenOff with
  | (.error e, files) => (.error (.notStored beside e), discard files beside)
  | (.ok n, files) =>
    match files.rename beside destination with
    | .error e => (.error (.notStored destination e), discard files beside)
    | .ok files => (.ok n, files)

/-- The fetcher that asks servers. -/
def fetching {σ : Type} (network : Network σ) : Fetcher σ := fun url destination timeout s =>
  match network url timeout s with
  | (.noAnswer cause, s) => (.error (.noAnswer url.text cause), s)
  | (.answer status chunks brokenOff, s) =>
    if isSuccess status then
      let (result, files) := install s.files destination chunks brokenOff
      (result, { s with files })
    else (.error (.badStatus url.text status), s)

end ClarityCheck.Download

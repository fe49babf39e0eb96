import ClarityCheck.Download.Install
import ClarityCheck.Files.Disk

/-!
# Storing downloads on a disk that may fail

The body of an answer is copied chunk by chunk into the file beside its destination, the file is
waited for, and then it takes the place of the destination. Each of these steps may meet with a
mishap, upon which the file beside the destination is removed.
-/

namespace ClarityCheck.Download

/-- Copies chunks to the end of an open file, and gives the number of bytes that have been written,
those before included. -/
def copyOn (mishaps : Mishaps) (l : Location) (brokenOff : Option SystemError) :
    (chunks : List Bytes) → (written : Nat) → Disk → Except SystemError Nat × Disk
  | [], written, d =>
    match brokenOff with
    | some e => (.error e, d)
    | none => (.ok written, d)
  | chunk :: chunks, written, d =>
    match d.append mishaps l chunk with
    | (.error e, d) => (.error e, d)
    | (.ok (), d) => copyOn mishaps l brokenOff chunks (written + chunk.length) d

/-- Writes a body to a file. -/
def writeBodyOn (mishaps : Mishaps) (p : Path) (chunks : List Bytes)
    (brokenOff : Option SystemError) (d : Disk) : Except SystemError Nat × Disk :=
  match d.openFile mishaps p with
  | (.error e, d) => (.error e, d)
  | (.ok l, d) =>
    match copyOn mishaps l brokenOff chunks 0 d with
    | (.error e, d) => (.error e, d)
    | (.ok written, d) =>
      match d.sync mishaps l with
      | (.error e, d) => (.error e, d)
      | (.ok (), d) => (.ok written, d)

/-- Stores a body at its destination, and gives the number of its bytes. -/
def installOn (mishaps : Mishaps) (destination : Path) (chunks : List Bytes)
    (brokenOff : Option SystemError) (d : Disk) : Except Failure Nat × Disk :=
  let beside := partialPath destination
  match writeBodyOn mishaps beside chunks brokenOff d with
  | (.error e, d) => (.error (.notStored beside e), (d.removeFile beside).2)
  | (.ok written, d) =>
    match d.rename mishaps beside destination with
    | (.error e, d) => (.error (.notStored destination e), (d.removeFile beside).2)
    | (.ok (), d) => (.ok written, d)

/-- The fetcher that asks servers and stores what they send on a disk. The answer holds what has
been asked of the disk. -/
def fetchingOn {σ : Type} (mishaps : Mishaps) (network : Network σ) (url : Url) (destination : Path)
    (timeout : Duration) (s : Scene σ) : Except Failure Nat × Scene σ × List Disk.Entry :=
  match network url timeout s with
  | (.noAnswer cause, s) => (.error (.noAnswer url.text cause), s, [])
  | (.answer status chunks brokenOff, s) =>
    if isSuccess status then
      let (result, d) := installOn mishaps destination chunks brokenOff ⟨s.files, []⟩
      (result, { s with files := d.files }, d.log)
    else (.error (.badStatus url.text status), s, [])

end ClarityCheck.Download

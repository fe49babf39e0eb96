import ClarityCheck.Files.Change

/-!
# Disks that fail

A file system refuses only what its files stand in the way of. A disk can fail besides, at any
request: it may be full, a permission may be missing, a device may give no answer. A disk keeps all
requests in order, so that one can tell what was tried and what was not; the mishaps are given by
the number of the request that meets with them. Requests to remove something meet with no mishap.

Main statements: `ask_ok` and `ask_error` (a request that is answered with an error changes
nothing), `append_answer` (a write that fails may have stored a part).
-/

namespace ClarityCheck

/-- A failure of a disk that its files do not explain. -/
structure Mishap where
  error : SystemError
  /-- The number of bytes that are stored nevertheless when a write fails. -/
  stored : Nat
  deriving DecidableEq, Repr

/-- The mishaps of a disk: the one, if any, that the request with a number meets with. -/
abbrev Mishaps := Nat → Option Mishap

/-- No request meets with a mishap. -/
def Mishaps.calm : Mishaps := fun _ => none

/-- What is asked of a disk. -/
inductive Disk.Request where
  | createDirectory (p : Path)
  /-- Opens a file, which is created or emptied. -/
  | openFile (p : Path)
  /-- Stores bytes at the end of an open file. -/
  | append (l : Location) (bytes : Bytes)
  /-- Waits until the content of an open file has been stored. -/
  | sync (l : Location)
  | rename (source target : Path)
  | removeFile (p : Path)
  | removeTree (p : Path)
  deriving DecidableEq, Repr

/-- A request, and the error that it was answered with. -/
abbrev Disk.Entry := Disk.Request × Option SystemError

/-- Files, and what has been asked of the disk that they are on. -/
structure Disk where
  files : Files
  log : List Disk.Entry

/-- The files with more bytes at the end of an open file. What is written to a device is gone. -/
def Files.append (files : Files) (l : Location) (bytes : Bytes) : Files :=
  match files.get? l with
  | some (.file content permissions) => files.put l (.file (content ++ bytes) permissions)
  | _ => files

namespace Disk

variable {α ε : Type}

/-- The error of an answer. -/
def errorOf? : Except ε α → Option ε
  | .error e => some e
  | .ok _ => none

/-- Answers a request, which leaves these files. -/
def answer (d : Disk) (r : Request) (result : Except SystemError α) (files : Files) :
    Except SystemError α × Disk :=
  (result, ⟨files, d.log ++ [(r, errorOf? result)]⟩)

/-- Answers a request as the file system does, unless it meets with a mishap. -/
def ask (mishaps : Mishaps) (r : Request) (change : Files → Except SystemError Files) (d : Disk) :
    Except SystemError Unit × Disk :=
  match mishaps d.log.length with
  | some mishap => d.answer r (.error mishap.error) d.files
  | none =>
    match change d.files with
    | .error e => d.answer r (.error e) d.files
    | .ok files => d.answer r (.ok ()) files

/-- Creates a directory, whose parent has to exist. -/
def createDirectory (mishaps : Mishaps) (p : Path) (d : Disk) : Except SystemError Unit × Disk :=
  d.ask mishaps (.createDirectory p) (·.createDirectory p)

/-- Creates a directory together with its missing parents, of which at most `fuel` are tried. -/
def createDirectoriesWithin (mishaps : Mishaps) (fuel : Nat) (p : Path) (d : Disk) :
    Except SystemError Unit × Disk :=
  if p.bytes = [] then (.ok (), d)
  else
    match d.createDirectory mishaps p with
    | (.ok (), d) => (.ok (), d)
    | (.error e, d) =>
      if e.kindOf = .notFound then
        match fuel, p.parent? with
        | fuel + 1, some parent =>
          match createDirectoriesWithin mishaps fuel parent d with
          | (.error e, d) => (.error e, d)
          | (.ok (), d) =>
            match d.createDirectory mishaps p with
            | (.ok (), d) => (.ok (), d)
            | (.error e, d) => (if d.files.isDirectory p then .ok () else .error e, d)
        | _, _ => (.error Files.noWholeTree, d)
      else (if d.files.isDirectory p then .ok () else .error e, d)

/-- Creates a directory together with its missing parents. A directory that exists is fine. -/
def createDirectories (mishaps : Mishaps) (p : Path) (d : Disk) : Except SystemError Unit × Disk :=
  createDirectoriesWithin mishaps (p.bytes.length + 1) p d

/-- Opens a file to write it, and gives the location that it has. -/
def openFile (mishaps : Mishaps) (p : Path) (d : Disk) : Except SystemError Location × Disk :=
  match d.ask mishaps (.openFile p) (·.write p []) with
  | (.error e, d) => (.error e, d)
  | (.ok (), d') => (d.files.locate true p, d')

/-- Writes to the end of an open file. A mishap may come after the first bytes. -/
def append (mishaps : Mishaps) (l : Location) (bytes : Bytes) (d : Disk) :
    Except SystemError Unit × Disk :=
  match mishaps d.log.length with
  | some mishap =>
    d.answer (.append l bytes) (.error mishap.error) (d.files.append l (bytes.take mishap.stored))
  | none => d.answer (.append l bytes) (.ok ()) (d.files.append l bytes)

/-- Writes a whole file, creating it or replacing its content. -/
def write (mishaps : Mishaps) (p : Path) (content : Bytes) (d : Disk) :
    Except SystemError Unit × Disk :=
  match d.openFile mishaps p with
  | (.error e, d) => (.error e, d)
  | (.ok l, d) => d.append mishaps l content

/-- Waits until an open file is stored. -/
def sync (mishaps : Mishaps) (l : Location) (d : Disk) : Except SystemError Unit × Disk :=
  d.ask mishaps (.sync l) .ok

/-- Moves a file to another path. -/
def rename (mishaps : Mishaps) (source target : Path) (d : Disk) : Except SystemError Unit × Disk :=
  d.ask mishaps (.rename source target) (·.rename source target)

/-- Removes a file or a link. -/
def removeFile (p : Path) (d : Disk) : Except SystemError Unit × Disk :=
  d.ask .calm (.removeFile p) (·.removeFile p)

/-- Removes a directory with everything in it, or a link. -/
def removeTree (p : Path) (d : Disk) : Except SystemError Unit × Disk :=
  d.ask .calm (.removeTree p) (·.removeTree p)

/-! ## What answers tell -/

variable {mishaps : Mishaps} {r : Request} {change : Files → Except SystemError Files} {d d' : Disk}
  {e : SystemError}

/-- A request that succeeds has done what it was for. -/
theorem ask_ok (h : d.ask mishaps r change = (.ok (), d')) :
    change d.files = .ok d'.files ∧ d'.log = d.log ++ [(r, none)] := by
  unfold ask at h
  split at h
  · cases h
  · split at h
    · cases h
    · next files hc =>
      cases h
      exact ⟨hc, rfl⟩

/-- A request that fails has changed nothing. -/
theorem ask_error (h : d.ask mishaps r change = (.error e, d')) :
    d'.files = d.files ∧ d'.log = d.log ++ [(r, some e)] := by
  unfold ask at h
  split at h
  · cases h
    exact ⟨rfl, rfl⟩
  · split at h
    · cases h
      exact ⟨rfl, rfl⟩
    · cases h

theorem append_answer {l : Location} {bytes : Bytes} {result : Except SystemError Unit}
    (h : d.append mishaps l bytes = (result, d')) :
    ∃ stored, d'.files = d.files.append l stored ∧ (result = .ok () → stored = bytes) ∧
      d'.log = d.log ++ [(.append l bytes, errorOf? result)] := by
  unfold append at h
  split at h
  · cases h
    exact ⟨_, rfl, by simp, rfl⟩
  · cases h
    exact ⟨_, rfl, fun _ => rfl, rfl⟩

end Disk

end ClarityCheck

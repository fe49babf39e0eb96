import ClarityCheck.Files.Walk

/-!
# Changing files

The operations of a file system on paths. Each gives the changed file system or the error that keeps
it from changing anything; `createDirectories` alone may leave some of its parents behind when it
fails, and so returns the file system in both cases.
-/

namespace ClarityCheck.Files

/-- Reads a file. -/
def read (files : Files) (p : Path) : Except SystemError Bytes :=
  match files.stat p with
  | .error e => .error e
  | .ok (.file content _) => .ok content
  | .ok .directory => .error .isDirectory
  | .ok _ => .ok []

/-- Writes a file, creating it or replacing its content. A path that ends in a slash names no file.
-/
def write (files : Files) (p : Path) (content : Bytes) : Except SystemError Files :=
  let named := p.withoutSlashes
  match files.locate (named = p) named with
  | .error e => .error e
  | .ok l =>
    if named ≠ p then .error .isDirectory
    else
      match files.get? l with
      | some .directory => .error .isDirectory
      | some (.file _ permissions) => .ok (files.put l (.file content permissions))
      | some _ => .ok files
      | none => .ok (files.put l (.file content .plain))

/-- Creates a directory, whose parent has to exist. A path that ends in a dot names what is there
already. -/
def createDirectory (files : Files) (p : Path) : Except SystemError Files :=
  if p.bytes = [] then .error .notFound
  else
    match files.locate false p.withoutSlashes with
    | .error e => .error e
    | .ok l =>
      match files.get? l with
      | some _ => .error .exists_
      | none => .ok (files.put l .directory)

/-- The error of a tree that has no root to start from. -/
def noWholeTree : SystemError := .text .uncategorized "failed to create whole tree"

/-- Creates a directory together with its missing parents, of which at most `fuel` are tried. -/
def createDirectoriesWithin (fuel : Nat) (files : Files) (p : Path) :
    Except SystemError Unit × Files :=
  if p.bytes = [] then (.ok (), files)
  else
    match files.createDirectory p with
    | .ok files => (.ok (), files)
    | .error e =>
      if e.kindOf = .notFound then
        match fuel, p.parent? with
        | fuel + 1, some parent =>
          match createDirectoriesWithin fuel files parent with
          | (.error e, files) => (.error e, files)
          | (.ok (), files) =>
            match files.createDirectory p with
            | .ok files => (.ok (), files)
            | .error e => (if files.isDirectory p then .ok () else .error e, files)
        | _, _ => (.error noWholeTree, files)
      else (if files.isDirectory p then .ok () else .error e, files)

/-- Creates a directory together with its missing parents. A directory that exists is fine. -/
def createDirectories (files : Files) (p : Path) : Except SystemError Unit × Files :=
  createDirectoriesWithin (p.bytes.length + 1) files p

/-- Removes a file or a link. -/
def removeFile (files : Files) (p : Path) : Except SystemError Files :=
  match files.locate false p with
  | .error e => .error e
  | .ok l =>
    match files.get? l with
    | none => .error .notFound
    | some .directory => .error .isDirectory
    | some _ => .ok (files.erase l)

/-- Removes a directory with everything in it, or a link. -/
def removeTree (files : Files) (p : Path) : Except SystemError Files :=
  match files.locate false p with
  | .error e => .error e
  | .ok l =>
    match files.get? l with
    | none => .error .notFound
    | some .directory => .ok (files.eraseTree l)
    | some (.link _) => .ok (files.erase l)
    | some _ => .error .notDirectory

/-- Moves a file to another path, where it takes the place of a file. -/
def rename (files : Files) (source target : Path) : Except SystemError Files :=
  match files.locate false source with
  | .error e => .error e
  | .ok l =>
    match files.get? l with
    | none => .error .notFound
    | some n =>
      match files.locate false target with
      | .error e => .error e
      | .ok m =>
        if l = m then .ok files
        else
          match files.get? m with
          | some .directory => .error (if n = .directory then .notEmpty else .isDirectory)
          | _ => .ok ((files.erase l).put m n)

/-- Gives a file another mode. Modes of other nodes are not kept. -/
def changeMode (files : Files) (p : Path) (mode : Nat) : Except SystemError Files :=
  match files.locate true p with
  | .error e => .error e
  | .ok l =>
    match files.get? l with
    | none => .error .notFound
    | some (.file content permissions) =>
      match permissions.withMode mode with
      | .error e => .error e
      | .ok permissions => .ok (files.put l (.file content permissions))
    | some _ => .ok files

/-! ## Listings -/

/-- Names in the order of their bytes. -/
def nameLe : FileName → FileName → Bool
  | [], _ => true
  | _ :: _, [] => false
  | a :: as, b :: bs => a < b || (a == b && nameLe as bs)

/-- Locations in the order of a listing: a directory stands before its contents. -/
def locationLe : Location → Location → Bool
  | [], _ => true
  | _ :: _, [] => false
  | a :: as, b :: bs => if a = b then locationLe as bs else nameLe a b

/-- What follows a location in a longer one. -/
def below? : Location → Location → Option Location
  | [], m => some m
  | _ :: _, [] => none
  | a :: as, b :: bs => if a = b then below? as bs else none

/-- Everything below a directory, named as seen from it, in the order of names. -/
def entriesBelow (files : Files) (l : Location) : List (Location × Node) :=
  (files.nodes.filterMap fun e =>
    match below? l e.1 with
    | some (n :: ns) => some (n :: ns, e.2)
    | _ => none).mergeSort (fun a b => locationLe a.1 b.1)

/-- Everything below the directory that a path stands for, if it does. -/
def listing? (files : Files) (p : Path) : Option (List (Location × Node)) :=
  match files.locate true p with
  | .ok l => if files.hasDirectory l then some (files.entriesBelow l) else none
  | .error _ => none

/-- The names of the entries of a directory in order. -/
def childNames (files : Files) (l : Location) : List FileName :=
  (files.entriesBelow l).filterMap fun e =>
    match e.1 with
    | [n] => some n
    | _ => none

end ClarityCheck.Files

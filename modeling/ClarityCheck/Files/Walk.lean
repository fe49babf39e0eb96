import ClarityCheck.Files.Basic

/-!
# From paths to locations

`locate` walks along a path, through links and upwards, to the location that the path stands for.
The last name may be missing, so that something can be created there. The walk ends because every
step uses up a name and only a limited number of links is followed.
-/

namespace ClarityCheck.Files

/-- The number of links that one walk follows. -/
def linkLimit : Nat := 40

/-- The largest number of bytes of a name. -/
def nameLimit : Nat := 255

/-- The largest number of bytes of a path. -/
def pathLimit : Nat := 4095

/-- The names to walk along a path. A path that ends in a slash or a dot demands a directory, which
a final dot stands for. -/
def steps (p : Path) : List FileName :=
  match (Path.splitSlashes p.bytes).getLast? with
  | some last => p.names ++ (if last = [] ∨ last = Path.dot then [Path.dot] else [])
  | none => p.names

/-- Where a walk along a path starts. -/
def startOf (p : Path) (directory : Location) : Location := if p.isAbsolute then [] else directory

/-- Walks along names from a directory. `links` is the number of links that may still be followed,
and `follow` tells whether a link at the end counts for what it leads to. -/
def walk (files : Files) (follow : Bool) (links : Nat) (l : Location) :
    List FileName → Except SystemError Location
  | [] => .ok l
  | name :: rest =>
    if name = Path.dot then walk files follow links l rest
    else if name = Path.dotDot then walk files follow links l.dropLast rest
    else if nameLimit < name.length then .error .nameTooLong
    else
      match files.get? (l ++ [name]) with
      | none => if rest = [] then .ok (l ++ [name]) else .error .notFound
      | some .directory => walk files follow links (l ++ [name]) rest
      | some (.link target) =>
        if rest = [] ∧ !follow then .ok (l ++ [name])
        else
          match links with
          | 0 => .error .linkLoop
          | links + 1 =>
            if target.bytes = [] then .error .notFound
            else walk files follow links (startOf target l) (steps target ++ rest)
      | some (.file ..) | some (.device _) =>
        if rest = [] then .ok (l ++ [name]) else .error .notDirectory
termination_by names => (links, names.length)

/-- The location that a path stands for. Everything but its last name has to exist. -/
def locate (files : Files) (follow : Bool) (p : Path) : Except SystemError Location :=
  if p.bytes = [] then .error .notFound
  else if p.bytes.contains 0 then .error .nulInName
  else if pathLimit < p.bytes.length then .error .nameTooLong
  else
    let start := startOf p files.directory
    if files.hasDirectory start then walk files follow linkLimit start (steps p)
    else .error .notFound

/-- What a path stands for, links at its end included in the walk. -/
def stat (files : Files) (p : Path) : Except SystemError Node :=
  match files.locate true p with
  | .error e => .error e
  | .ok l =>
    match files.get? l with
    | some n => .ok n
    | none => .error .notFound

/-- A path stands for a file with a content of its own. -/
def isFile (files : Files) (p : Path) : Bool :=
  match files.stat p with
  | .ok (.file ..) => true
  | _ => false

/-- A path stands for a directory. -/
def isDirectory (files : Files) (p : Path) : Bool :=
  match files.stat p with
  | .ok .directory => true
  | _ => false

/-- The absolute path of a location. -/
def pathOf (l : Location) : Path :=
  match l with
  | [] => ⟨[slash]⟩
  | _ :: _ => ⟨l.flatMap (slash :: ·)⟩

/-- The absolute path of the current directory. -/
def currentPath (files : Files) : Path := pathOf files.directory

/-- The path without links and detours of something that exists. -/
def canonical (files : Files) (p : Path) : Except SystemError Path :=
  match files.locate true p with
  | .error e => .error e
  | .ok l => if files.get? l |>.isSome then .ok (pathOf l) else .error .notFound

end ClarityCheck.Files

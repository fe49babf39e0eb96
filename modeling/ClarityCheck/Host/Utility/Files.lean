import ClarityCheck.Host.Utility.Basic

/-!
# Utilities on files

Utilities that show and change what stands in the file system.
-/

namespace ClarityCheck.Host

/-! ## Listings -/

/-- The names of a directory that a listing shows. -/
def shownNames (files : Files) (a : Job.Arguments) (l : Location) : List Raw :=
  let names := (files.childNames l).map Raw.ofBytes
  if a.has 'a' then ['.'] :: ['.', '.'] :: names
  else if a.has 'A' then names
  else names.filter (·.head? != some '.')

/-- The sign behind a name that tells what it stands for. -/
def sortSign (a : Job.Arguments) : Option Node → Raw
  | some .directory => if a.has 'F' || a.has 'p' then ['/'] else []
  | some (.link _) => if a.has 'F' then ['@'] else []
  | some (.file _ permissions) => if a.has 'F' && permissions.allowsRunning then ['*'] else []
  | _ => []

/-- Lists a directory and, if that is wanted, those below it in at most `fuel` levels. -/
def listing (files : Files) (a : Job.Arguments) (heading : Bool) :
    (fuel : Nat) → Raw → Location → List Raw
  | 0, _, _ => []
  | fuel + 1, path, l =>
    let names := shownNames files a l
    let names := if a.has 'r' then names.reverse else names
    let row (n : Raw) : Raw := n ++ sortSign a (files.get? (l ++ [Raw.bytes n])) ++ ['\n']
    let block := (if heading || a.has 'R' then path ++ ":\n".toList else []) ++ names.flatMap row
    let below := if a.has 'R' then
        names.flatMap fun n =>
          if n ≠ ['.'] ∧ n ≠ ['.', '.'] ∧ files.hasDirectory (l ++ [Raw.bytes n]) then
            listing files a true fuel (path ++ '/' :: n) (l ++ [Raw.bytes n])
          else []
      else []
    block :: below

/-- The letters of `ls`. -/
def listingLetters : Job.Letters :=
  "aA1CdFprRUlhtSx".toList.map fun c => (c, false)

/-- Lists directories. -/
def ls : Utility := fun j =>
  let a := Job.Arguments.read listingLetters true j.arguments
  match a.problem with
  | some m => (j.misused m).ending 2
  | none =>
    let operands := if a.operands.isEmpty then [['.']] else a.operands
    let found := operands.map fun p =>
      (p, (j.files.stat (Raw.path p)).bind fun n =>
        (j.files.locate true (Raw.path p)).map fun l => (n, l))
    let missing := found.filterMap fun
      | (p, .error e) =>
        some (j.complaint ("cannot access '".toList ++ p ++ "': ".toList ++ Job.reason e))
      | _ => none
    let single := found.filterMap fun
      | (_, .error _) => none
      | (p, .ok (.directory, _)) => if a.has 'd' then some p else none
      | (p, .ok _) => some p
    let directories := found.filterMap fun
      | (p, .ok (.directory, l)) => if a.has 'd' then none else some (p, l)
      | _ => none
    let row (p : Raw) : Raw :=
      let node := (j.files.locate false (Raw.path p)).toOption.bind fun l => j.files.get? l
      p ++ sortSign a node ++ ['\n']
    let blocks := directories.flatMap fun d =>
      listing j.files a (1 < operands.length) (j.files.nodes.length + 1) d.1 d.2
    let blocks := if single.isEmpty then blocks else single.flatMap row :: blocks
    let e := j.nothing
    let e := { e with written := missing, status := if missing.isEmpty then 0 else 2 }
    e.output (blocks.intersperse ['\n']).flatten

/-! ## Directories -/

/-- Creates directories. -/
def mkdir : Utility := fun j =>
  j.withArguments [('p', false), ('m', true), ('v', false)] (some "operand") fun a =>
    let act (files : Files) (p : Path) : Except SystemError Files :=
      if a.has 'p' then
        match files.createDirectories p with
        | (.ok (), files) => .ok files
        | (.error e, _) => .error e
      else files.createDirectory p
    j.onEach a.operands act fun p e =>
      "cannot create directory '".toList ++ p ++ "': ".toList ++ Job.reason e

/-- Removes directories that are empty. -/
def rmdir : Utility := fun j =>
  j.withArguments [('p', false), ('v', false)] (some "operand") fun a =>
    let one (files : Files) (p : Path) : Except SystemError Files :=
      match files.locate false p with
      | .error e => .error e
      | .ok l =>
        match files.get? l with
        | none => .error .notFound
        | some .directory =>
          if (files.childNames l).isEmpty then .ok (files.erase l) else .error .notEmpty
        | some _ => .error .notDirectory
    let rec above (files : Files) : (fuel : Nat) → Path → Except SystemError Files
      | 0, _ => .ok files
      | fuel + 1, p =>
        match one files p with
        | .error e => .error e
        | .ok files =>
          match p.parent? with
          | some q => if q.bytes.isEmpty then .ok files else above files fuel q
          | none => .ok files
    let act (files : Files) (p : Path) : Except SystemError Files :=
      if a.has 'p' then above files (p.bytes.length + 1) p else one files p
    j.onEach a.operands act fun p e =>
      "failed to remove '".toList ++ p ++ "': ".toList ++ Job.reason e

/-! ## Files -/

/-- Removes files. -/
def rm : Utility := fun j =>
  let a := Job.Arguments.read ("rRfvid".toList.map fun c => (c, false)) true j.arguments
  match a.problem with
  | some m => j.misused m
  | none =>
    if a.operands.isEmpty ∧ !a.has 'f' then j.misused "missing operand"
    else
      let act (files : Files) (p : Path) : Except SystemError Files :=
        match files.removeFile p with
        | .error .isDirectory =>
          if a.has 'r' || a.has 'R' then files.removeTree p else .error .isDirectory
        | .error e =>
          if a.has 'f' && (e == .notFound || e == .notDirectory) then .ok files else .error e
        | r => r
      j.onEach a.operands act fun p e => "cannot remove '".toList ++ p ++ "': ".toList ++
        Job.reason e

/-- Creates files that do not exist. -/
def touch : Utility := fun j =>
  j.withArguments [('c', false), ('a', false), ('m', false), ('d', true), ('t', true), ('r', true)]
    (some "file operand") fun a =>
      let act (files : Files) (p : Path) : Except SystemError Files :=
        match files.stat p with
        | .ok _ => .ok files
        | .error e => if a.has 'c' && e == .notFound then .ok files else files.write p []
      j.onEach a.operands act fun p e => "cannot touch '".toList ++ p ++ "': ".toList ++
        Job.reason e

/-- The bits that concern those whom a letter names. -/
def bitsOf (c : Char) : Nat :=
  match c with
  | 'u' => 0o4700
  | 'g' => 0o2070
  | 'o' => 0o1007
  | _ => 0o7777

/-- The bits of a right in a mode. Who may run a file already may be given that right by `X`. -/
def bitsOfRight (before : Nat) (c : Char) : Nat :=
  match c with
  | 'r' => 0o444
  | 'w' => 0o222
  | 'x' => 0o111
  | 'X' => if before &&& 0o111 = 0 then 0 else 0o111
  | 's' => 0o6000
  | _ => 0o1000

/-- The bits of several letters. -/
def bitsOfAll (bits : Char → Nat) (s : Raw) : Nat := s.foldl (fun n c => n ||| bits c) 0

/-- The bits that are not set in a new file. They are left alone where nobody is named. -/
def newFileMask : Nat := 0o022

/-- What a description makes of a mode; nothing when it is no description. -/
def modeAfter? (description : Raw) (before : Nat) : Option Nat :=
  if description ≠ [] ∧ description.all (fun c => (Raw.octal? c).isSome) then
    some (Raw.valueOf 8 description)
  else
    let who := description.takeWhile "ugoa".toList.contains
    match description.drop who.length with
    | sign :: rights =>
      if "+-=".toList.contains sign && rights.all "rwxXst".toList.contains then
        let concerned := if who.isEmpty then 0o7777 else bitsOfAll bitsOf who
        let spared := if who.isEmpty then newFileMask else 0
        let given := bitsOfAll (bitsOfRight before) rights &&& concerned
        let given := given ^^^ (given &&& spared)
        if sign = '+' then some (before ||| given)
        else if sign = '-' then some (before ^^^ (before &&& given))
        else some ((before ^^^ (before &&& concerned)) ||| given)
      else none
    | [] => none

/-- Changes the modes of files. -/
def chmod : Utility := fun j =>
  match j.arguments.filter fun a => a ≠ "-R".toList && a ≠ "--".toList with
  | [] => j.misused "missing operand"
  | [mode] => j.misused ("missing operand after '" ++ String.ofList mode ++ "'")
  | mode :: operands =>
    let clauses (before : Nat) : Option Nat :=
      (mode.foldr (fun c ps => if c = ',' then [] :: ps else match ps with
        | [] => [[c]]
        | p :: ps => (c :: p) :: ps) [[]]).foldl (fun b m => b.bind (modeAfter? m)) (some before)
    if (clauses 0).isNone then j.misused ("invalid mode: '" ++ String.ofList mode ++ "'")
    else
      let act (files : Files) (p : Path) : Except SystemError Files :=
        let before := match files.stat p with
          | .ok (.file _ permissions) => permissions.mode
          | _ => 0
        files.changeMode p ((clauses before).getD before)
      j.onEach operands act fun p e =>
        (if e.kindOf = .permissionDenied then "changing permissions of '"
          else "cannot access '").toList
          ++ p ++ "': ".toList ++ Job.reason e

/-! ## Copies, moves and links -/

/-- The last name of a path. -/
def lastName (p : Raw) : Raw :=
  match (Raw.path p).names.getLast? with
  | some n => Raw.ofBytes n
  | none => p.take 1

/-- Copies what stands at a location, with everything below it. -/
def copyTree (files : Files) (source target : Location) : Files :=
  match files.get? source with
  | some .directory =>
    let start := if files.hasDirectory target then files else files.put target .directory
    (files.entriesBelow source).foldl (fun fs e => fs.put (target ++ e.1) e.2) start
  | some n => files.put target n
  | none => files

/-- Applies an operation on two paths to each source. The last operand is the target, which may be a
directory that takes all of them. -/
def toTarget (j : Job) (operands : List Raw) (missing : String)
    (act : Files → Raw → Raw → Except Raw Files) : Effect :=
  match operands with
  | [] => j.misused missing
  | [p] => j.misused ("missing destination file operand after '" ++ String.ofList p ++ "'")
  | operands =>
    let target := operands.getLastD []
    let isDirectory := j.files.isDirectory (Raw.path target)
    let sources := operands.dropLast
    if 1 < sources.length ∧ !isDirectory then
      j.fails 1 ("target '" ++ String.ofList target ++ "': " ++
        (if (j.files.stat (Raw.path target)).toBool then "Not a directory"
         else "No such file or directory"))
    else
      sources.foldl (fun e p =>
        let place := if isDirectory then Raw.ofPath ((Raw.path target).join (Raw.path (lastName p)))
          else target
        match act e.files p place with
        | .ok files => { e with files }
        | .error m => { e with written := e.written ++ [j.complaint m], status := 1 }) j.nothing

/-- Copies files. -/
def cp : Utility := fun j =>
  let a := Job.Arguments.read ("rRafpvdnPL".toList.map fun c => (c, false)) true j.arguments
  match a.problem with
  | some m => j.misused m
  | none =>
    toTarget j a.operands "missing file operand" fun files p q =>
      match (files.stat (Raw.path p)), files.locate true (Raw.path p),
          files.locate true (Raw.path q) with
      | .error e, _, _ | _, .error e, _ =>
        .error ("cannot stat '".toList ++ p ++ "': ".toList ++ Job.reason e)
      | .ok .directory, .ok l, .ok m =>
        if a.has 'r' || a.has 'R' || a.has 'a' then .ok (copyTree files l m)
        else .error ("-r not specified; omitting directory '".toList ++ p ++ ['\''])
      | .ok (.file content permissions), .ok l, .ok m =>
        if l = m then
          .error ("'".toList ++ p ++ "' and '".toList ++ q ++ "' are the same file".toList)
        else
          match files.get? m with
          | some (.file _ old) => .ok (files.put m (.file content old))
          | none => .ok (files.put m (.file content { permissions with refusal := none }))
          | some _ => .ok files
      | .ok _, .ok _, .ok m => .ok (files.put m (.file [] .plain))
      | _, _, .error e =>
        .error ("cannot create regular file '".toList ++ q ++ "': ".toList ++ Job.reason e)

/-- Moves files. -/
def mv : Utility := fun j =>
  let a := Job.Arguments.read ("fvniT".toList.map fun c => (c, false)) true j.arguments
  match a.problem with
  | some m => j.misused m
  | none =>
    toTarget j a.operands "missing file operand" fun files p q =>
      match files.locate false (Raw.path p) with
      | .error e => .error ("cannot stat '".toList ++ p ++ "': ".toList ++ Job.reason e)
      | .ok l =>
        match files.get? l, files.locate false (Raw.path q) with
        | none, _ => .error ("cannot stat '".toList ++ p ++ "': No such file or directory".toList)
        | some _, .error e =>
          .error
            ("cannot move '".toList ++ p ++ "' to '".toList ++ q ++ "': ".toList ++ Job.reason e)
        | some n, .ok m =>
          if l = m then
            .error ("'".toList ++ p ++ "' and '".toList ++ q ++ "' are the same file".toList)
          else
            match n with
            | .directory => .ok ((copyTree files l m).eraseTree l)
            | n => .ok ((files.erase l).put m n)

/-- Creates links. A further name of a file is a copy of it. -/
def ln : Utility := fun j =>
  let a := Job.Arguments.read ("sfnvr".toList.map fun c => (c, false)) true j.arguments
  match a.problem with
  | some m => j.misused m
  | none =>
    let operands := match a.operands with
      | [p] => [p, ['.']]
      | ps => ps
    toTarget j operands "missing file operand" fun files p q =>
      let kind := if a.has 's' then "symbolic link" else "hard link"
      let lead := ("failed to create " ++ kind ++ " '").toList ++ q
      match files.locate false (Raw.path q), files.stat (Raw.path p), a.has 's' with
      | .error e, _, _ => .error (lead ++ "': ".toList ++ Job.reason e)
      | .ok m, node, soft =>
        if (files.get? m).isSome ∧ !a.has 'f' then .error (lead ++ "': File exists".toList)
        else if soft then .ok (files.put m (.link (Raw.path p)))
        else
          match node with
          | .ok .directory => .error (p ++ ": hard link not allowed for directory".toList)
          | .ok n => .ok (files.put m n)
          | .error e => .error ("failed to access '".toList ++ p ++ "': ".toList ++ Job.reason e)

/-! ## Paths -/

/-- The path without links of something whose last name may be missing. -/
def realPath? (files : Files) (p : Raw) : Option Raw :=
  match files.locate true (Raw.path p) with
  | .ok l => some (Raw.ofPath (Files.pathOf l))
  | .error _ => none

/-- Writes where links lead. -/
def readlink : Utility := fun j =>
  j.withArguments [('f', false), ('n', false), ('e', false), ('m', false)] (some "operand") fun a =>
    a.operands.foldl (fun e p =>
      let target? : Option Raw :=
        if a.has 'f' || a.has 'e' || a.has 'm' then realPath? j.files p
        else
          match j.files.locate false (Raw.path p) with
          | .ok l => match j.files.get? l with
            | some (.link q) => some (Raw.ofPath q)
            | _ => none
          | .error _ => none
      match target? with
      | some t => if a.has 'n' then e.output t else e.line t
      | none => e.ending 1) j.nothing

/-- Writes paths without links. -/
def realpath : Utility := fun j =>
  j.withArguments [('e', false), ('m', false), ('s', false)] (some "operand") fun a =>
    a.operands.foldl (fun e p =>
      match realPath? j.files p with
      | some t => e.line t
      | none =>
        let reason := match j.files.locate true (Raw.path p) with
          | .error err => Job.reason err
          | .ok _ => []
        { e with written := e.written ++ [j.complaint (p ++ ": ".toList ++ reason)], status := 1 })
      j.nothing

/-- Writes the path of the current directory. -/
def pwd : Utility := fun j => j.nothing.line (Raw.ofPath j.files.currentPath)

/-- Writes the last part of a path, without an ending that is given. -/
def basename : Utility := fun j =>
  match if j.arguments.head? = some "--".toList then j.arguments.drop 1 else j.arguments with
  | [] => j.misused "missing operand"
  | p :: rest =>
    let name := lastName p
    let ending := rest.headD []
    let short := name.take (name.length - ending.length)
    match rest with
    | _ :: x :: _ => j.misused ("extra operand '" ++ String.ofList x ++ "'")
    | _ => j.nothing.line (if short ≠ [] ∧ short ++ ending = name then short else name)

/-- Writes paths without their last parts. -/
def dirname : Utility := fun j =>
  match if j.arguments.head? = some "--".toList then j.arguments.drop 1 else j.arguments with
  | [] => j.misused "missing operand"
  | ps =>
    ps.foldl (fun e p =>
      let parent := match (Raw.path p).parent? with
        | some d => Raw.ofPath d
        | none => p.take 1
      e.line (if parent = [] then ['.'] else parent)) j.nothing

end ClarityCheck.Host

import ClarityCheck.Compiler.Attempt
import ClarityCheck.Compiler.Binary
import ClarityCheck.Compiler.Plan
import ClarityCheck.Download.Fetcher
import ClarityCheck.Run.Executor

/-!
# The search for a compiler

A compiler is searched for in steps: where downloads are kept, where the hosted build environment
places one, along the search path, and by a download. The first program that tells its version is
taken. A compiler that was found is remembered; one that is doubted has to tell its version again.
-/

namespace ClarityCheck.Compiler

variable {σ : Type}

/-- What a search for a compiler depends on. -/
structure Searcher (σ : Type) where
  plan : Plan
  executor : Run.Executor σ
  fetcher : Download.Fetcher σ

/-- The result of a step: a compiler or the reason why there is none. -/
abbrev Found := Except Attempt Binary

/-- The number of bytes kept of the output of a program that is only asked something. -/
def probeOutputLimit : Nat := 64 * 1024

/-- The mode of a program, which everybody may run and only its owner may change. -/
def programMode : Nat := 0o755

/-- The path as an absolute one, if the working directory is known. -/
def anchored (files : Files) (p : Path) : Path :=
  if p.isAbsolute ∨ files.hasDirectory files.directory then p.absolute files.currentPath else p

namespace Searcher

/-- The request that asks a program for its version. -/
def probe (s : Searcher σ) (program : Path) : Run.Request :=
  { (Run.Request.of program).textArgument versionFlag with
    timeout := s.plan.probeTimeout, outputLimit := probeOutputLimit }

/-- Asks a program for its version. -/
def ask (s : Searcher σ) (step : Step) (program : Path) (scene : Scene σ) : Found × Scene σ :=
  match s.executor (s.probe program) .fresh scene with
  | (.ok o, scene) =>
    if o.success then (.ok (.answering program), scene)
    else (.error ⟨step, .refused program o.status⟩, scene)
  | (.error f, scene) => (.error ⟨step, .notRun f⟩, scene)

/-- Asks a program that has to be a file. It is named by an absolute path, since it will run in
another directory. -/
def tryFile (s : Searcher σ) (step : Step) (program : Path) (scene : Scene σ) : Found × Scene σ :=
  if scene.files.isFile program then s.ask step (anchored scene.files program) scene
  else (.error ⟨step, .absent program⟩, scene)

/-- The first compiler along the search path. -/
def onSearchPath? (s : Searcher σ) (files : Files) : Option Path :=
  ((s.plan.searchDirectories.map (·.join s.plan.command)).find? files.isFile).map (anchored files)

/-- Asks the first compiler along the search path, and then whatever the bare name stands for. -/
def trySearchPath (s : Searcher σ) (scene : Scene σ) : Found × Scene σ :=
  match s.onSearchPath? scene.files with
  | none => s.ask .searchPath s.plan.command scene
  | some program =>
    match s.ask .searchPath program scene with
    | (.ok b, scene) => (.ok b, scene)
    | (.error _, scene) => s.ask .searchPath s.plan.command scene

/-- The request that unpacks an archive. -/
def unpack (s : Searcher σ) (archive : Path) : Run.Request :=
  let r := (Run.Request.of (.ofString unpacker)).textArgument "-xzf"
  let r := ((r.argument archive.bytes).textArgument "-C").argument s.plan.cacheDirectory.bytes
  { r with timeout := s.plan.downloadTimeout, outputLimit := probeOutputLimit }

/-- Removes a file, if that is possible. -/
def discard (files : Files) (p : Path) : Files :=
  match files.removeFile p with
  | .ok files => files
  | .error _ => files

/-- Makes the unpacked compiler a program and asks it. -/
def finishDownload (s : Searcher σ) (scene : Scene σ) : Found × Scene σ :=
  let binary := s.plan.cachedBinary
  match scene.files.changeMode binary programMode with
  | .error e => (.error ⟨.download, .notMarked binary e⟩, scene)
  | .ok files => s.ask .download binary { scene with files }

/-- Unpacks the archive, removes it and goes on with what it held. -/
def unpackArchive (s : Searcher σ) (archive : Path) (scene : Scene σ) : Found × Scene σ :=
  match s.executor (s.unpack archive) .fresh scene with
  | (outcome, scene) =>
    let scene := { scene with files := discard scene.files archive }
    match outcome with
    | .error f => (.error ⟨.download, .notRun f⟩, scene)
    | .ok o =>
      if o.success then s.finishDownload scene
      else (.error ⟨.download, .notUnpacked o.status o.stderr⟩, scene)

/-- Downloads the archive at an address and goes on with it. -/
def fetchArchive (s : Searcher σ) (target : String) (url : Url) (scene : Scene σ) :
    Found × Scene σ :=
  match scene.files.createDirectories s.plan.cacheDirectory with
  | (.error e, files) =>
    (.error ⟨.download, .noDirectory s.plan.cacheDirectory e⟩, { scene with files })
  | (.ok (), files) =>
    let archive := s.plan.archive target
    match s.fetcher url archive s.plan.downloadTimeout { scene with files } with
    | (.error f, scene) => (.error ⟨.download, .notFetched f⟩, scene)
    | (.ok _, scene) => s.unpackArchive archive scene

/-- Downloads a compiler. -/
def tryDownload (s : Searcher σ) (scene : Scene σ) : Found × Scene σ :=
  match s.plan.family.releaseTarget? with
  | none => (.error ⟨.download, .noRelease⟩, scene)
  | some target =>
    match s.plan.release.archiveUrl target with
    | .error e => (.error ⟨.download, .badAddress e⟩, scene)
    | .ok url => s.fetchArchive target url scene

/-- The steps of the search for a plan, in order. -/
def steps (s : Searcher σ) : List (Scene σ → Found × Scene σ) :=
  [s.tryFile .cache s.plan.cachedBinary]
    ++ (if s.plan.family.isHosted then [s.tryFile .hostedBuild s.plan.hostedBinary] else [])
    ++ [s.trySearchPath]
    ++ [if s.plan.allowsDownload then s.tryDownload
        else fun scene => (.error ⟨.download, .disabled⟩, scene)]

/-- Takes steps until one finds a compiler. -/
def firstFound : List (Scene σ → Found × Scene σ) → Scene σ →
    Except (List Attempt) Binary × Scene σ
  | [], scene => (.error [], scene)
  | step :: rest, scene =>
    match step scene with
    | (.ok b, scene) => (.ok b, scene)
    | (.error a, scene) =>
      match firstFound rest scene with
      | (.ok b, scene) => (.ok b, scene)
      | (.error as, scene) => (.error (a :: as), scene)

/-- Searches for a compiler from the beginning. -/
def resolve (s : Searcher σ) (scene : Scene σ) : Except Unavailable Binary × Scene σ :=
  match firstFound s.steps scene with
  | (.ok b, scene) => (.ok b, scene)
  | (.error as, scene) => (.error ⟨as⟩, scene)

/-- Asks the remembered compiler again, if there is one. -/
def reverify (s : Searcher σ) (memory : Memory) (scene : Scene σ) : Option Binary × Scene σ :=
  match memory with
  | none => (none, scene)
  | some b =>
    match s.ask .reverify b.path scene with
    | (.ok b, scene) => (some b, scene)
    | (.error _, scene) => (none, scene)

/-- A compiler that can be run: the remembered one if it is verified or tells its version again,
else one that is searched for. What is found is remembered, and a search that finds nothing forgets.
-/
def ensure (s : Searcher σ) (memory : Memory) (scene : Scene σ) :
    Except Unavailable Binary × Memory × Scene σ :=
  match memory with
  | some ⟨path, true⟩ => (.ok ⟨path, true⟩, memory, scene)
  | _ =>
    match s.reverify memory scene with
    | (some b, scene) => (.ok b, some b, scene)
    | (none, scene) =>
      match s.resolve scene with
      | (.ok b, scene) => (.ok b, some b, scene)
      | (.error e, scene) => (.error e, none, scene)

end Searcher

end ClarityCheck.Compiler

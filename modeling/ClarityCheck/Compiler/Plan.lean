import ClarityCheck.Duration
import ClarityCheck.Environment
import ClarityCheck.Path
import ClarityCheck.Release

/-!
# Where to look for a compiler

A plan says where a compiler may be found on a host, whether one may be downloaded, and how long
each step may take.
-/

namespace ClarityCheck.Compiler

/-- How to find a compiler. -/
structure Plan where
  family : Host.Family
  cacheDirectory : Path
  hostedBinary : Path
  allowsDownload : Bool
  release : Release
  probeTimeout : Duration
  downloadTimeout : Duration
  /-- The directories to search, with colons between them. -/
  searchPath : Option Bytes
  deriving DecidableEq, Repr

namespace Plan

/-- Where the hosted build environment places the compiler, seen from the working directory. -/
def defaultHostedBinary : Path := .ofString "bin/clarinet"

/-- The time limit for asking a compiler its version. -/
def defaultProbeTimeout : Duration := .ofSeconds 5

/-- The time limit for each step of a download. -/
def defaultDownloadTimeout : Duration := .ofSeconds 20

/-- The search path: the one that is asked for, or else the one of the environment. -/
def searchPathIn (e : Environment) (wanted : Option Bytes) : Option Bytes :=
  wanted.or ((e.get? "PATH").map fun v => Text.Utf8.encode v.toList)

/-- A plan with the usual limits. Downloads are allowed in the hosted build environment. -/
def of (family : Host.Family) (cacheDirectory : Path) (searchPath : Option Bytes) : Plan where
  family
  cacheDirectory
  hostedBinary := defaultHostedBinary
  allowsDownload := family.isHosted
  release := .default
  probeTimeout := defaultProbeTimeout
  downloadTimeout := defaultDownloadTimeout
  searchPath

/-- The bare name of the compiler. -/
def command (p : Plan) : Path := .ofString p.family.executable

/-- Where a downloaded compiler lies. -/
def cachedBinary (p : Plan) : Path := p.cacheDirectory.join p.command

/-- Where the archive for a target is stored. -/
def archive (p : Plan) (target : String) : Path :=
  p.cacheDirectory.join (.ofString (Release.archiveName target))

/-- The directories to search, empty ones left out. -/
def searchDirectories (p : Plan) : List Path := (p.searchPath.map Path.listed).getD []

end Plan

end ClarityCheck.Compiler

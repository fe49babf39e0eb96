/-!
# Host families

The three families of hosts that matter for finding a compiler: the hosted build environment,
Windows, and everything else. A family fixes the compiler's file name and, with the architecture,
the release that runs on it.
-/

namespace ClarityCheck.Host

/-- The operating system that the tool runs on. -/
def thisSystem : String := "linux"

/-- The architecture that the tool runs on. -/
def thisArchitecture : String := "x86_64"

/-- A family of hosts. -/
inductive Family where
  /-- The hosted build environment, which is Linux with a flag set. -/
  | hostedLinux
  | windows
  /-- Every other host. -/
  | unix
  deriving DecidableEq, Repr

namespace Family

/-- The family of an operating system. The flag for the hosted environment counts on Linux alone. -/
def classify (system : String) (hosted : Bool) : Family :=
  if system = "windows" then .windows
  else if system = "linux" ∧ hosted then .hostedLinux
  else .unix

/-- The family of the host that the tool runs on. -/
def current (hosted : Bool) : Family := classify thisSystem hosted

/-- The family is the hosted build environment. -/
def isHosted : Family → Bool
  | .hostedLinux => true
  | _ => false

/-- The file name of the compiler. -/
def executable : Family → String
  | .windows => "clarinet.exe"
  | .hostedLinux | .unix => "clarinet"

/-- The name of the family. -/
def name : Family → String
  | .hostedLinux => "hosted-linux"
  | .windows => "windows"
  | .unix => "unix"

end Family

/-- The release that is published for an operating system and an architecture. -/
def releaseTarget? (system architecture : String) : Option String :=
  match system, architecture with
  | "linux", "x86_64" => some "linux-x64-glibc"
  | "linux", "aarch64" => some "linux-arm64-glibc"
  | "macos", "x86_64" => some "macos-x64"
  | "macos", "aarch64" => some "macos-arm64"
  | "windows", "x86_64" => some "windows-x64"
  | _, _ => none

/-- The release for a family on this host's architecture. -/
def Family.releaseTarget? (f : Family) : Option String :=
  let system := match f with
    | .windows => "windows"
    | .hostedLinux => "linux"
    | .unix => thisSystem
  Host.releaseTarget? system thisArchitecture

end ClarityCheck.Host

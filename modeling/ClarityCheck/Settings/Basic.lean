import ClarityCheck.Duration
import ClarityCheck.Json.Basic
import ClarityCheck.Release
import ClarityCheck.Settings.Choice
import ClarityCheck.Text.Blank

/-!
# Settings

The thirteen settings of the tool, their usual values, and the values among the well-formed ones
that make no sense.

Main statement: `problem?_default` (the usual settings make sense).
-/

namespace ClarityCheck

/-- The settings of the tool. -/
structure Settings where
  /-- Which log events are written. -/
  logFilter : String := "info"
  logFormat : Settings.LogFormat := .json
  /-- The release of the compiler to download. -/
  compilerVersion : String := Release.defaultVersion
  /-- The address below which releases are published. -/
  releaseBase : String := Release.defaultBase
  /-- Where downloads are kept, instead of the user's directory for such things. -/
  cacheDirectory : Option String := none
  /-- The environment variable that marks the hosted build environment. -/
  hostedVariable : String := "VERCEL"
  /-- Where the hosted build environment places the compiler. -/
  hostedBinary : String := "bin/clarinet"
  /-- Where projects are staged, instead of the directory for temporary files. -/
  workspaceRoot : Option String := none
  /-- The time limit for a check, in seconds. -/
  checkSeconds : UInt64 := 30
  /-- The time limit for asking a compiler its version, in seconds. -/
  probeSeconds : UInt64 := 5
  /-- The time limit for each step of a download, in seconds. -/
  downloadSeconds : UInt64 := 20
  /-- The number of bytes kept of each output stream of the compiler. -/
  outputLimit : UInt64 := 1048576
  downloadPolicy : Settings.DownloadPolicy := .hostedOnly
  deriving DecidableEq, Repr

/-- The thirteen settings by themselves. -/
inductive Settings.Key where
  | logFilter
  | logFormat
  | compilerVersion
  | releaseBase
  | cacheDirectory
  | hostedVariable
  | hostedBinary
  | workspaceRoot
  | checkSeconds
  | probeSeconds
  | downloadSeconds
  | outputLimit
  | downloadPolicy
  deriving DecidableEq, Repr

namespace Settings

/-- The settings with their usual values. -/
def default : Settings := {}

/-- The name of a setting in documents. -/
def Key.name : Key → String
  | .logFilter => "log_filter"
  | .logFormat => "log_format"
  | .compilerVersion => "compiler_version"
  | .releaseBase => "release_base_url"
  | .cacheDirectory => "cache_dir"
  | .hostedVariable => "hosted_env_var"
  | .hostedBinary => "hosted_binary_path"
  | .workspaceRoot => "workspace_root"
  | .checkSeconds => "check_timeout_secs"
  | .probeSeconds => "probe_timeout_secs"
  | .downloadSeconds => "download_timeout_secs"
  | .outputLimit => "max_output_bytes"
  | .downloadPolicy => "download_policy"

/-- All settings in order. -/
def Key.all : List Key :=
  [.logFilter, .logFormat, .compilerVersion, .releaseBase, .cacheDirectory, .hostedVariable,
    .hostedBinary, .workspaceRoot, .checkSeconds, .probeSeconds, .downloadSeconds, .outputLimit,
    .downloadPolicy]

/-- A text that may be missing as a JSON value. -/
def optionalText : Option String → Json
  | some s => .str s
  | none => .null

/-- The value of a setting as a JSON value. -/
def value (s : Settings) : Key → Json
  | .logFilter => .str s.logFilter
  | .logFormat => .str s.logFormat.name
  | .compilerVersion => .str s.compilerVersion
  | .releaseBase => .str s.releaseBase
  | .cacheDirectory => optionalText s.cacheDirectory
  | .hostedVariable => .str s.hostedVariable
  | .hostedBinary => .str s.hostedBinary
  | .workspaceRoot => optionalText s.workspaceRoot
  | .checkSeconds => .ofNat s.checkSeconds.toNat
  | .probeSeconds => .ofNat s.probeSeconds.toNat
  | .downloadSeconds => .ofNat s.downloadSeconds.toNat
  | .outputLimit => .ofNat s.outputLimit.toNat
  | .downloadPolicy => .str s.downloadPolicy.name

/-- The members of the JSON object that writes the settings. -/
def members (s : Settings) : List (String × Json) := Key.all.map fun k => (k.name, s.value k)

/-! ## Values that make no sense -/

/-- What is wrong with well-formed settings. -/
inductive Problem where
  /-- A time limit is zero. -/
  | zeroTimeout (key : Key)
  /-- No output would be kept. -/
  | zeroOutputLimit
  /-- A text is blank. -/
  | blank (key : Key)
  deriving DecidableEq, Repr

/-- The wording of a problem. -/
def Problem.message : Problem → String
  | .zeroTimeout key => key.name ++ " must be greater than zero"
  | .zeroOutputLimit => Key.outputLimit.name ++ " must be greater than zero"
  | .blank key => key.name ++ " must not be empty"

/-- All problems in the order in which they are looked for, each with whether it is there. -/
def tests (s : Settings) : List (Problem × Bool) :=
  [(.zeroTimeout .checkSeconds, s.checkSeconds == 0),
    (.zeroTimeout .probeSeconds, s.probeSeconds == 0),
    (.zeroTimeout .downloadSeconds, s.downloadSeconds == 0),
    (.zeroOutputLimit, s.outputLimit == 0),
    (.blank .compilerVersion, Text.isBlankString s.compilerVersion),
    (.blank .releaseBase, Text.isBlankString s.releaseBase),
    (.blank .hostedVariable, Text.isBlankString s.hostedVariable)]

/-- The first problem of the settings, if there is one. -/
def problem? (s : Settings) : Option Problem := (s.tests.find? (·.2)).map (·.1)

/-- The usual settings make sense. -/
theorem problem?_default : default.problem? = none := by decide +kernel

/-! ## What the settings stand for -/

/-- The time limit for a check. -/
def checkTimeout (s : Settings) : Duration := .ofSeconds s.checkSeconds.toNat

/-- The time limit for asking a compiler its version. -/
def probeTimeout (s : Settings) : Duration := .ofSeconds s.probeSeconds.toNat

/-- The time limit for each step of a download. -/
def downloadTimeout (s : Settings) : Duration := .ofSeconds s.downloadSeconds.toNat

end Settings

end ClarityCheck

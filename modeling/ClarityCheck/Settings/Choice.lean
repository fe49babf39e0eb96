import ClarityCheck.Json.Basic

/-!
# Settings with a few values

The format of log output and the policy on downloads. Each value has one name. A command line may
write the name in any mixture of cases; a document has to write it exactly.
-/

namespace ClarityCheck.Settings

/-- A letter of the alphabet from a to z in its lower case. -/
def lowerAscii (c : Char) : Char := if 'A' ≤ c ∧ c ≤ 'Z' then Char.ofNat (c.toNat + 32) else c

/-- Two words are the same but for the case of letters from a to z. -/
def sameWord (a b : String) : Bool := a.toList.map lowerAscii == b.toList.map lowerAscii

/-- The wording when a word names no value. -/
def noSuchValue : String := "Matching variant not found"

/-- How log events are written. -/
inductive LogFormat where
  /-- One JSON object for each event. -/
  | json
  /-- A line of text for each event. -/
  | compact
  deriving DecidableEq, Repr

namespace LogFormat

/-- The name of a format. -/
def name : LogFormat → String
  | .json => "json"
  | .compact => "compact"

/-- All formats. -/
def all : List LogFormat := [.json, .compact]

/-- The format of exactly this name. -/
def ofName? (name : String) : Option LogFormat := all.find? (·.name == name)

/-- The format that a word stands for, in any case. -/
def ofWord? (word : String) : Option LogFormat := all.find? (fun f => sameWord f.name word)

end LogFormat

/-- When a compiler may be downloaded. -/
inductive DownloadPolicy where
  /-- In the hosted build environment alone. -/
  | hostedOnly
  | always
  | never
  deriving DecidableEq, Repr

namespace DownloadPolicy

/-- The name of a policy. -/
def name : DownloadPolicy → String
  | .hostedOnly => "hosted_only"
  | .always => "always"
  | .never => "never"

/-- All policies. -/
def all : List DownloadPolicy := [.hostedOnly, .always, .never]

/-- The policy of exactly this name. -/
def ofName? (name : String) : Option DownloadPolicy := all.find? (·.name == name)

/-- The policy that a word stands for, in any case. -/
def ofWord? (word : String) : Option DownloadPolicy := all.find? (fun p => sameWord p.name word)

/-- Downloads are allowed on a host. -/
def permits (policy : DownloadPolicy) (hosted : Bool) : Bool :=
  match policy with
  | .hostedOnly => hosted
  | .always => true
  | .never => false

end DownloadPolicy

end ClarityCheck.Settings

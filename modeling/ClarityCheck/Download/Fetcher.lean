import ClarityCheck.Download.Failure
import ClarityCheck.Duration
import ClarityCheck.Scene
import ClarityCheck.Url.Basic

/-!
# Fetchers

A fetcher stores what a URL leads to at a path, within a time limit, and tells how many bytes it
stored.
-/

namespace ClarityCheck.Download

/-- Something that downloads. -/
abbrev Fetcher (σ : Type) :=
  Url → Path → Duration → Scene σ → Except Failure Nat × Scene σ

end ClarityCheck.Download

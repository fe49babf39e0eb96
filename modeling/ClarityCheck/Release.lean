import ClarityCheck.Host.Family
import ClarityCheck.Url.Parser

/-!
# Releases of the compiler

Where releases are published: an archive for each version and target lies below a base address. The
version may be given with or without a letter v in front.
-/

namespace ClarityCheck

/-- Where releases are published, and the version that is wanted. -/
structure Release where
  base : String
  version : String
  deriving DecidableEq, Repr

namespace Release

/-- The address below which releases are published. -/
def defaultBase : String := "https://github.com/hirosystems/clarinet/releases/download"

/-- The version that is wanted when none is named. -/
def defaultVersion : String := "2.11.2"

/-- The release that is wanted when none is named. -/
def default : Release := ⟨defaultBase, defaultVersion⟩

/-- The file name of the archive for a target. -/
def archiveName (target : String) : String := "clarinet-" ++ target ++ ".tar.gz"

/-- The base without slashes at its end. -/
def trimmedBase (r : Release) : List Char := (r.base.toList.reverse.dropWhile (· = '/')).reverse

/-- The version without letters v in front. -/
def trimmedVersion (r : Release) : List Char := r.version.toList.dropWhile (· = 'v')

/-- The address of the archive for a target as text. -/
def address (r : Release) (target : String) : List Char :=
  r.trimmedBase ++ "/v".toList ++ r.trimmedVersion ++ '/' :: (archiveName target).toList

/-- A text that should be the address of an archive and is no URL. -/
structure InvalidAddress where
  address : String
  error : Url.ParseError
  deriving DecidableEq, Repr

/-- The wording of an invalid address. -/
def InvalidAddress.message (e : InvalidAddress) : String :=
  "invalid artifact url '" ++ e.address ++ "': " ++ e.error.message

/-- The URL of the archive for a target. -/
def archiveUrl (r : Release) (target : String) : Except InvalidAddress Url :=
  (Url.ofChars (r.address target)).mapError (⟨String.ofList (r.address target), ·⟩)

end Release

end ClarityCheck

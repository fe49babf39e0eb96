import ClarityCheck.Text.Cut

/-!
# Manifests

The manifest of a staged project names the project and its only contract, which have the same name.
-/

namespace ClarityCheck.Workspace

/-- The file name of the manifest. -/
def manifestFile : String := "Clarinet.toml"

/-- The directory of contracts. -/
def contractsDirectory : String := "contracts"

/-- The file name of a contract. -/
def contractFile (name : String) : String := name ++ ".clar"

/-- The directory of the compiler's own files. -/
def compilerCache : String := "./.cache"

/-- The manifest of a project, whose name needs no quoting. -/
def manifest (name : String) : String :=
  "[project]\nname = \"" ++ name ++ "\"\nauthors = []\ntelemetry = false\ncache_dir = \""
    ++ compilerCache ++ "\"\n\n[contracts." ++ name ++ "]\npath = \"" ++ contractsDirectory ++ "/"
    ++ contractFile name ++ "\"\n"

end ClarityCheck.Workspace

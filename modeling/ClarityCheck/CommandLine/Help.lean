/-!
# Help

The help texts of the tool and its commands. Each shows the usage line of the command as it was
called.
-/

namespace ClarityCheck.CommandLine.Help

/-- Lines as a text. -/
def lines (ls : List String) : String := String.join (ls.map (· ++ "\n"))

/-- The line that shows how a command is called. -/
def usageLine (usage : String) : String := "Usage: " ++ usage

/-- The options of the tool in short. -/
def optionsInShort : List String :=
  ["      --output <OUTPUT>  Controls how results are rendered [default: auto] [possible values: auto, human, json]",
    "  -h, --help             Print help (see more with '--help')",
    "  -V, --version          Print version"]

/-- The options of the tool in detail. -/
def optionsInDetail : List String :=
  ["      --output <OUTPUT>",
    "          Controls how results are rendered",
    "",
    "          Possible values:",
    "          - auto:  Selects \x60human\x60 for terminal output and \x60json\x60 for redirected output",
    "          - human: Always render human-readable output",
    "          - json:  Always emit JSON documents",
    "          ",
    "          [default: auto]",
    "",
    "  -h, --help",
    "          Print help (see a summary with '-h')",
    "",
    "  -V, --version",
    "          Print version"]

/-- The help of the tool. -/
def tool (usage : String) (detailed : Bool) : String :=
  lines (["Structural linting and compiler validation for Clarity contracts",
    "",
    usageLine usage,
    "",
    "Commands:",
    "  lint   Runs the structural linter over a contract file",
    "  check  Type-checks a contract file with the external compiler",
    "",
    "Options:"] ++ if detailed then optionsInDetail else optionsInShort)

/-- The help of the structural check. -/
def lint (usage : String) : String :=
  lines ["Runs the structural linter over a contract file",
    "",
    usageLine usage,
    "",
    "Arguments:",
    "  <FILE>  Contract source file",
    "",
    "Options:",
    "  -h, --help  Print help"]

/-- The help of the check with the compiler. -/
def check (usage : String) : String :=
  lines ["Type-checks a contract file with the external compiler",
    "",
    usageLine usage,
    "",
    "Arguments:",
    "  <FILE>  Contract source file",
    "",
    "Options:",
    "      --name <NAME>  Contract name; defaults to the file stem",
    "  -h, --help         Print help"]

/-- The version of the tool. -/
def version : String := lines ["clarigate 0.1.0"]

end ClarityCheck.CommandLine.Help

import PugScript.Journal.Service

/-!
# The help text
-/

namespace PugScript.CommandLine

def version : String := "0.1.0"

def helpLines (program : String) (settings : Settings) : List String :=
  ["Pug Interpreter v" ++ version,
    "Runs Pug scripts or starts an interactive session",
    "",
    "USAGE:",
    "    " ++ program ++ "                        # Start the REPL",
    "    " ++ program ++ " <script.pug> [options] # Run a script",
    "",
    "OPTIONS:",
    "    --help              Show this help message",
    "    --json              Print the execution report as JSON",
    "    --tokens            Print the token stream before running",
    "    --config <file>     Load runtime preferences from a TOML file",
    "",
    "REPL COMMANDS:",
    "    /quit               Leave the session (an empty line also quits)",
    "    /cls                Clear the screen",
    "    :t                  Toggle token printing",
    ""] ++
    ((Journal.Service.closed.describe settings.journal).splitOn "\n").map ("    " ++ ·)

end PugScript.CommandLine

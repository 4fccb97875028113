/-!
# Options of the command

The arguments name a script, choose how it is run and where preferences are found. What cannot be
used is warned about and passed over.
-/

namespace PugScript.CommandLine

structure Options where
  script? : Option String := none
  json : Bool := false
  printTokens : Bool := false
  settingsPath? : Option String := none
  help : Bool := false
  deriving DecidableEq, Repr

inductive Warning where
  | missingSettingsPath
  | unknownOption (argument : String)
  | extraArgument (argument : String)
  deriving DecidableEq, Repr

def Warning.message : Warning → String
  | missingSettingsPath => "Warning: --config requires a file path"
  | unknownOption argument => "Warning: Unknown option '" ++ argument ++ "'"
  | extraArgument argument => "Warning: Ignoring extra argument '" ++ argument ++ "'"

namespace Options

/-- Takes one argument that stands for itself. -/
def takeArgument (options : Options) (argument : String) : Options × List Warning :=
  if argument = "--help" ∨ argument = "-h" then ({ options with help := true }, [])
  else if argument = "--json" then ({ options with json := true }, [])
  else if argument = "--tokens" then ({ options with printTokens := true }, [])
  else if argument.startsWith "--" then (options, [.unknownOption argument])
  else if options.script?.isNone then ({ options with script? := some argument }, [])
  else (options, [.extraArgument argument])

/-- Takes the arguments in order, starting from given options. -/
def takeArguments (options : Options) : List String → Options × List Warning
  | [] => (options, [])
  | ["--config"] => (options, [.missingSettingsPath])
  | "--config" :: path :: rest => takeArguments { options with settingsPath? := some path } rest
  | argument :: rest =>
    let (options, warnings) := options.takeArgument argument
    let (options, moreWarnings) := takeArguments options rest
    (options, warnings ++ moreWarnings)

/-- The options of the arguments, with the warnings in the order of the arguments. -/
def ofArguments (arguments : List String) : Options × List Warning :=
  takeArguments {} arguments

end Options

end PugScript.CommandLine

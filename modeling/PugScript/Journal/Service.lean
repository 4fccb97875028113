import PugScript.Settings

/-!
# The journal of a process

A process opens its journal once and chooses the preferences for it once. Until they are chosen,
the defaults hold.
-/

namespace PugScript.Journal

structure Service where
  /-- The chosen preferences. -/
  preferences? : Option JournalPreferences
  isOpen : Bool
  deriving DecidableEq, Repr

namespace Service

def closed : Service :=
  ⟨none, false⟩

def choose (service : Service) (preferences : JournalPreferences) : Except String Service :=
  if service.preferences?.isSome then .error "Runtime preferences already initialized"
  else .ok { service with preferences? := some preferences }

def opened (service : Service) : Except String Service :=
  if service.isOpen then .error "Global logger already initialized"
  else .ok { service with isOpen := true }

def openingEvent : Event :=
  Event.success .loggingStarted "Global logging system initialized"

def describe (service : Service) (defaults : JournalPreferences) : String :=
  let preferences := service.preferences?.getD defaults
  let yes (truth : Bool) : String := if truth then "true" else "false"
  "=== Logging System Diagnostics ===\n" ++
    "Initialized: " ++ yes service.isOpen ++ "\n\n" ++
    "Logging Configuration:\n" ++
    "=== Compile-time Limits ===\n" ++
    "- Log buffer size: " ++ toString Limits.logBufferSize ++ "\n" ++
    "- Max message length: " ++ toString Limits.maxLogMessageLength ++ "\n" ++
    "=== User Preferences (Runtime) ===\n" ++
    "- Min log level: " ++ preferences.minLogLevel.label ++ "\n" ++
    "- Structured logging: " ++ yes preferences.useStructuredLogging ++ "\n" ++
    "- Console logging: " ++ yes preferences.enableConsoleLogging ++ "\n" ++
    "- Include file context: " ++ yes preferences.includeFileContext

end Service

end PugScript.Journal

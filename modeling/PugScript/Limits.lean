/-!
# The fixed limits of the interpreter

They are part of the program, not preferences: a source, a script or a value beyond one of them is
refused.
-/

namespace PugScript.Limits

/-- The most bytes a script file may have. -/
def maxFileSize : Nat := 10485760

/-- From this many bytes on a script counts as large. -/
def largeFileThreshold : Nat := 1048576

/-- The most characters a string literal may have. -/
def maxStringSize : Nat := 1048576

def maxIdentifierLength : Nat := 255

def maxTokenCount : Nat := 1000000

def maxParseDepth : Nat := 200

def maxCallArguments : Nat := 64

def maxStringLength : Nat := 16777216

def maxRoundDigits : Nat := 15

def logBufferSize : Nat := 10000

/-- The most characters of a message that the journal keeps. -/
def maxLogMessageLength : Nat := 4096

def provenance : String := "Generated from config/development.toml"

/-- The limits fit together: every string literal is a string value and the journal can hold
events. -/
def areConsistent : Bool :=
  maxStringSize ≤ maxStringLength && largeFileThreshold ≤ maxFileSize &&
    100 ≤ logBufferSize && logBufferSize ≤ 100000 && 0 < maxLogMessageLength

end PugScript.Limits

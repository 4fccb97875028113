/-!
# The codes that classify errors and milestones

Every error carries a code, and the register says of each error code what it belongs to, how grave
it is, whether a run can go on, and what to do about it. Codes outside the register get the
answers of an unclassified error.
-/

namespace PugScript.Journal

abbrev Code := String

inductive Severity where
  | critical
  | high
  | medium
  | low
  deriving DecidableEq, Repr

def Severity.name : Severity → String
  | .critical => "Critical"
  | .high => "High"
  | .medium => "Medium"
  | .low => "Low"

structure CodeEntry where
  code : Code
  category : String
  severity : Severity
  recoverable : Bool
  requiresHalt : Bool
  description : String
  action : String

/-! ## Error codes -/

def Code.internalError : Code := "ERR001"

def Code.initializationFailure : Code := "ERR002"

def Code.configurationError : Code := "ERR003"

def Code.fileNotFound : Code := "E005"

def Code.invalidExtension : Code := "E006"

def Code.fileTooLarge : Code := "E007"

def Code.emptyFile : Code := "E008"

def Code.permissionDenied : Code := "E009"

def Code.invalidEncoding : Code := "E010"

def Code.fileInputOutput : Code := "E011"

def Code.invalidPath : Code := "E012"

def Code.unexpectedCharacter : Code := "E020"

def Code.unterminatedString : Code := "E021"

def Code.invalidNumber : Code := "E022"

def Code.identifierTooLong : Code := "E023"

def Code.stringTooLarge : Code := "E024"

def Code.tooManyTokens : Code := "E027"

def Code.unexpectedToken : Code := "E040"

def Code.unknownIdentifier : Code := "E041"

def Code.unknownType : Code := "E042"

def Code.typeMismatch : Code := "E043"

def Code.unsupportedOperator : Code := "E044"

def Code.nonBooleanLogicalOperand : Code := "E045"

def Code.unterminatedBlock : Code := "E046"

def Code.nestingTooDeep : Code := "E047"

def Code.loopLimitExceeded : Code := "E048"

def Code.tooManyArguments : Code := "E049"

def Code.conversionFailed : Code := "E060"

def Code.invalidCast : Code := "E061"

def Code.functionNotFound : Code := "E062"

def Code.invalidArgumentCount : Code := "E063"

def Code.invalidArgument : Code := "E064"

def Code.hostFailure : Code := "E065"

def Code.stringTooLong : Code := "E066"

/-! ## Milestone codes -/

def Code.operationCompleted : Code := "I001"

def Code.loggingStarted : Code := "I004"

def Code.scriptRead : Code := "I006"

def Code.tokenizationCompleted : Code := "I020"

def Code.evaluationCompleted : Code := "I040"

def Code.scriptCompleted : Code := "I050"

def Code.sessionStarted : Code := "I051"

def Code.uncodedWarning : Code := "W000"

def Code.uncodedInformation : Code := "I000"

def Code.uncodedDetail : Code := "D000"

/-! ## The register -/

/-- What is known of every error code. -/
def register : List CodeEntry :=
  [⟨Code.internalError, "System", .critical, false, true,
      "Critical internal interpreter error",
      "File a bug report with the script that triggered it"⟩,
    ⟨Code.initializationFailure, "System", .critical, false, true,
      "System initialization failure",
      "Check runtime configuration and environment variables"⟩,
    ⟨Code.configurationError, "System", .high, false, true,
      "Invalid runtime configuration",
      "Fix the configuration file or PUG_* environment variables"⟩,
    ⟨Code.fileNotFound, "FileProcessing", .medium, false, true,
      "Script file not found at specified path",
      "Check file path and ensure file exists"⟩,
    ⟨Code.invalidExtension, "FileProcessing", .low, true, false,
      "File does not have .pug extension",
      "Rename file with .pug extension or disable the extension check"⟩,
    ⟨Code.fileTooLarge, "FileProcessing", .medium, false, true,
      "File exceeds maximum size limit",
      "Split the script or rebuild with a larger limit"⟩,
    ⟨Code.emptyFile, "FileProcessing", .low, true, false,
      "Script file is empty",
      "Provide a file with content"⟩,
    ⟨Code.permissionDenied, "FileProcessing", .medium, false, true,
      "Permission denied accessing file",
      "Check file permissions and user access rights"⟩,
    ⟨Code.invalidEncoding, "FileProcessing", .medium, false, true,
      "File is not valid UTF-8",
      "Save the script with UTF-8 encoding"⟩,
    ⟨Code.fileInputOutput, "FileProcessing", .medium, false, true,
      "I/O error while reading file",
      "Check disk health and retry"⟩,
    ⟨Code.invalidPath, "FileProcessing", .low, false, true,
      "Path is not a regular file",
      "Pass the path of a script file, not a directory"⟩,
    ⟨Code.unexpectedCharacter, "Lexical", .high, false, true,
      "Unexpected character in source",
      "Remove or replace the highlighted character"⟩,
    ⟨Code.unterminatedString, "Lexical", .high, false, true,
      "String literal is not closed",
      "Add the closing double quote"⟩,
    ⟨Code.invalidNumber, "Lexical", .high, false, true,
      "Malformed numeric literal",
      "Use at most one decimal point in a number"⟩,
    ⟨Code.identifierTooLong, "Lexical", .medium, false, true,
      "Identifier exceeds maximum length",
      "Use a shorter variable name"⟩,
    ⟨Code.stringTooLarge, "Lexical", .medium, false, true,
      "String literal exceeds maximum size",
      "Split the literal into smaller pieces"⟩,
    ⟨Code.tooManyTokens, "Lexical", .medium, false, true,
      "Source produces too many tokens",
      "Split the script into smaller scripts"⟩,
    ⟨Code.unexpectedToken, "Evaluation", .high, false, true,
      "Unexpected token",
      "Check the statement syntax around the highlighted token"⟩,
    ⟨Code.unknownIdentifier, "Evaluation", .high, false, true,
      "Identifier used before declaration",
      "Declare the variable with a type before using it"⟩,
    ⟨Code.unknownType, "Evaluation", .high, false, true,
      "Unknown data type name",
      "Use one of int, double, bool or string"⟩,
    ⟨Code.typeMismatch, "Evaluation", .high, false, true,
      "Operator applied to incompatible types",
      "Convert one operand with to_int, to_double, to_str or to_bool"⟩,
    ⟨Code.unsupportedOperator, "Evaluation", .high, false, true,
      "Operator is not supported for these operands",
      "Check operand types of the highlighted operator"⟩,
    ⟨Code.nonBooleanLogicalOperand, "Evaluation", .high, false, true,
      "Logical operator applied to non-boolean operand",
      "Use comparisons to produce bool operands"⟩,
    ⟨Code.unterminatedBlock, "Evaluation", .high, false, true,
      "Block is missing its end keyword",
      "Close every if and while block with end"⟩,
    ⟨Code.nestingTooDeep, "Evaluation", .critical, false, true,
      "Expression nesting exceeds maximum depth",
      "Simplify deeply nested expressions or blocks"⟩,
    ⟨Code.loopLimitExceeded, "Evaluation", .high, false, true,
      "Loop exceeded the configured iteration limit",
      "Check the loop condition or raise PUG_EVALUATOR_MAX_LOOP_ITERATIONS"⟩,
    ⟨Code.tooManyArguments, "Evaluation", .medium, false, true,
      "Function call has too many arguments",
      "Reduce the number of call arguments"⟩,
    ⟨Code.conversionFailed, "Runtime", .high, false, true,
      "Value cannot be converted to the requested type",
      "Check the value being converted"⟩,
    ⟨Code.invalidCast, "Runtime", .high, false, true,
      "Value type does not match the declared type",
      "Declare the variable with a matching type or convert the value"⟩,
    ⟨Code.functionNotFound, "Runtime", .high, false, true,
      "Built-in function not found",
      "Check the function name"⟩,
    ⟨Code.invalidArgumentCount, "Runtime", .high, false, true,
      "Wrong number of arguments for built-in function",
      "Check the function arity"⟩,
    ⟨Code.invalidArgument, "Runtime", .high, false, true,
      "Argument out of range for built-in function",
      "Check argument values"⟩,
    ⟨Code.hostFailure, "Runtime", .high, false, true,
      "Host input/output failure",
      "Check the terminal or input stream"⟩,
    ⟨Code.stringTooLong, "Runtime", .medium, false, true,
      "String result exceeds maximum length",
      "Reduce string repetition or concatenation"⟩]

def Code.entry? (code : Code) : Option CodeEntry :=
  register.find? fun entry => entry.code == code

/-- The severity of a code; medium if it is not registered. -/
def Code.severity (code : Code) : Severity :=
  match code.entry? with
  | some entry => entry.severity
  | none => .medium

/-- Whether work can go on after the error; it can if the code is not registered. -/
def Code.isRecoverable (code : Code) : Bool :=
  match code.entry? with
  | some entry => entry.recoverable
  | none => true

/-- Whether the error ends the run; it does not if the code is not registered. -/
def Code.requiresHalt (code : Code) : Bool :=
  match code.entry? with
  | some entry => entry.requiresHalt
  | none => false

/-- What the code stands for. -/
def Code.description (code : Code) : String :=
  match code.entry? with
  | some entry => entry.description
  | none => "Unknown error"

/-- What the user can do about the error. -/
def Code.action (code : Code) : String :=
  match code.entry? with
  | some entry => entry.action
  | none => "No specific action available"

def Code.category (code : Code) : String :=
  match code.entry? with
  | some entry => entry.category
  | none => "Unknown"

end PugScript.Journal

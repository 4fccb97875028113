import PugScript.Evaluation.Error
import PugScript.Lexing.Error
import PugScript.ScriptFile

/-!
# Failed runs

A run fails when its script cannot be read, when the source cannot be split into tokens, when the
tokens cannot be evaluated, or for a reason outside the script.
-/

namespace PugScript

open PugScript.Journal

inductive RunError where
  | file (error : FileError)
  | lexical (error : LexicalError)
  | evaluation (error : EvaluationError)
  /-- A reason outside the script, in the words of the host. -/
  | other (reason : String)

namespace RunError

def message : RunError → String
  | file error => error.message
  | lexical error => error.fault.message
  | evaluation error => error.fault.message
  | other reason => "Pipeline error: " ++ reason

def code : RunError → Code
  | file error => error.code
  | lexical error => error.fault.code
  | evaluation error => error.fault.code
  | other _ => .internalError

def tokens : RunError → List Token
  | file _ => []
  | lexical error => error.tokens
  | evaluation error => error.tokens
  | other _ => []

/-- The token to point at. A source that cannot be split has none at the place of the fault, so the
character there stands in for it. -/
def currentToken? : RunError → Option Token
  | file _ => none
  | lexical error =>
    some ⟨.identifier, (error.character.map String.singleton).getD "", error.position⟩
  | evaluation error => some error.token
  | other _ => none

end RunError

end PugScript

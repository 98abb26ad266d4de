import Turnstile.Condition.Fault
import Turnstile.Decision

/-! Errors. -/
namespace Turnstile

inductive Error where
  | serviceNotFound (service : String)
  | evaluation (message : String)
  /-- What is loaded does not fit the listing it is synchronised with. -/
  | cache (message : String)
  | builtinFunction (message : String)
  | customFunction (message : String)
  /-- Requests cannot be recorded. -/
  | discover (message : String)
  | tokenAssertion (message : String)
  | condition (failure : Condition.Failure)
  | store (message : String)
  | config (message : String)
  | file (message : String)
deriving DecidableEq, Inhabited

namespace Error

def fileMissing : Error := .file "No such file or directory (os error 2)"

def message : Error → String
  | serviceNotFound service => s!"Application {service} is not found"
  | evaluation m => "Evaluation engine error: " ++ m
  | cache m => "Evaluation cache error: " ++ m
  | builtinFunction m => "Builtin function error: " ++ m
  | customFunction m => "Customer function error: " ++ m
  | discover m => "Discover error: " ++ m
  | tokenAssertion m => "Token assertion failed: " ++ m
  | condition f => "Condition error: " ++ f.message
  | store m => "Store error: " ++ m
  | config m => "Configuration error: " ++ m
  | file m => "I/O error: " ++ m

/-- The number under which the platform knows the error, if it has one. -/
def code? : Error → Option String
  | serviceNotFound _ | evaluation _ => some "SPDL-2001"
  | cache _ => some "SPDL-2002"
  | builtinFunction _ => some "SPDL-2003"
  | customFunction _ => some "SPDL-2004"
  | discover _ => some "SPDL-2005"
  | _ => none

/-- The reason given along with a decision that failed. -/
def reason : Error → Reason
  | serviceNotFound _ => .serviceNotFound
  | _ => .errorInEvaluation

end Error
end Turnstile

import Turnstile.Json.Decode
import Turnstile.Json.Encode

/-! Answers to requests. -/
namespace Turnstile

inductive Reason where
  | grantPolicyFound
  | denyPolicyFound
  | serviceNotFound
  | noApplicablePolicies
  | errorInEvaluation
  | discoverMode
  | reasonNotAvailable
deriving DecidableEq, Inhabited

namespace Reason

def all : List Reason :=
  [grantPolicyFound, denyPolicyFound, serviceNotFound, noApplicablePolicies, errorInEvaluation,
    discoverMode, reasonNotAvailable]

def name : Reason → String
  | grantPolicyFound => "GRANT_POLICY_FOUND"
  | denyPolicyFound => "DENY_POLICY_FOUND"
  | serviceNotFound => "SERVICE_NOT_FOUND"
  | noApplicablePolicies => "NO_APPLICABLE_POLICIES"
  | errorInEvaluation => "ERROR_IN_EVALUATION"
  | discoverMode => "DISCOVER_MODE"
  | reasonNotAvailable => "REASON_NOT_AVAILABLE"

def decoder : Decoder Reason := .choice all name

def toJson (r : Reason) : Json := .string r.name

end Reason

structure Decision where
  allowed : Bool
  reason : Reason
deriving DecidableEq, Inhabited

namespace Decision

def allow (reason : Reason) : Decision := ⟨true, reason⟩
def deny (reason : Reason) : Decision := ⟨false, reason⟩

def decoder : Decoder Decision :=
  .record "Decision" (mk <$> .required "allowed" .bool <*> .required "reason" Reason.decoder)

def toJson (d : Decision) : Json :=
  .record [("allowed", some (.bool d.allowed)), ("reason", some d.reason.toJson)]

end Decision
end Turnstile

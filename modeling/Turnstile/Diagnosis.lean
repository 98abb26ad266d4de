import Turnstile.Decision
import Turnstile.Policy.Codec
import Turnstile.Request

/-! What an explained decision tells about the policies it met. -/
namespace Turnstile

inductive Outcome where
  /-- The policy decided. -/
  | takesEffect
  | conditionFailed
  /-- The decision had been made before. -/
  | ignored
deriving DecidableEq, Inhabited

namespace Outcome

def all : List Outcome := [takesEffect, conditionFailed, ignored]

def name : Outcome → String
  | takesEffect => "takeEffect"
  | conditionFailed => "conditionFailed"
  | ignored => "ignored"

def decoder : Decoder Outcome := .choice all name

def toJson (o : Outcome) : Json := .string o.name

end Outcome

structure DiagnosedCondition where
  expression : String
  /-- Absent when the condition played no part. -/
  result : Option Bool := none
deriving DecidableEq, Inhabited

namespace DiagnosedCondition

def decoder : Decoder DiagnosedCondition :=
  .record "EvaluatedCondition" (mk <$> .required "expression" .string <*> .optional "result" .bool)

def toJson (c : DiagnosedCondition) : Json :=
  .record [("expression", some (.string c.expression)), ("result", c.result.map .bool)]

end DiagnosedCondition

structure DiagnosedPolicy where
  outcome : Outcome
  id : String
  name : String := ""
  effect : Effect
  permissions : List Permission := []
  principals : List (List String) := []
  condition : Option DiagnosedCondition := none
deriving DecidableEq, Inhabited

namespace DiagnosedPolicy

def ofPolicy (p : Policy) (outcome : Outcome) (result : Option Bool) : DiagnosedPolicy where
  outcome := outcome
  id := p.id
  name := p.name
  effect := p.effect
  permissions := p.permissions
  principals := p.principals
  condition := p.condition?.map (⟨·, result⟩)

def decoder : Decoder DiagnosedPolicy :=
  .record "EvaluatedPolicy" (mk <$> .required "status" Outcome.decoder <*> .required "id" .string
    <*> .withDefault "name" .string "" <*> .required "effect" Effect.decoder
    <*> .withDefault "permissions" (.list Permission.decoder) []
    <*> .withDefault "principals" (.list (.list .string)) []
    <*> .optional "condition" DiagnosedCondition.decoder)

def toJson (p : DiagnosedPolicy) : Json :=
  .record [("status", some p.outcome.toJson), ("id", some (.string p.id)),
    ("name", Json.nonEmptyText p.name), ("effect", some p.effect.toJson),
    ("permissions", Json.nonEmptyList Permission.toJson p.permissions),
    ("principals", Json.nonEmptyList Json.strings p.principals),
    ("condition", p.condition.map DiagnosedCondition.toJson)]

end DiagnosedPolicy

structure DiagnosedRolePolicy where
  outcome : Outcome
  id : String
  name : String := ""
  effect : Effect
  roles : List String := []
  principals : List String := []
  resources : List String := []
  expressions : List String := []
  condition : Option DiagnosedCondition := none
deriving DecidableEq, Inhabited

namespace DiagnosedRolePolicy

/-- A role policy either takes effect or fails its condition. -/
def ofRolePolicy (p : RolePolicy) (result : Bool) : DiagnosedRolePolicy where
  outcome := if result then .takesEffect else .conditionFailed
  id := p.id
  name := p.name
  effect := p.effect
  roles := p.roles
  principals := p.principals
  resources := p.resources
  expressions := p.expressions
  condition := p.condition?.map (⟨·, some result⟩)

def decoder : Decoder DiagnosedRolePolicy :=
  .record "EvaluatedRolePolicy" (mk <$> .required "status" Outcome.decoder
    <*> .required "id" .string <*> .withDefault "name" .string ""
    <*> .required "effect" Effect.decoder <*> strings "roles" <*> strings "principals"
    <*> strings "resources" <*> strings "resourceExpressions"
    <*> .optional "condition" DiagnosedCondition.decoder)

def toJson (p : DiagnosedRolePolicy) : Json :=
  .record [("status", some p.outcome.toJson), ("id", some (.string p.id)),
    ("name", Json.nonEmptyText p.name), ("effect", some p.effect.toJson),
    ("roles", some (Json.strings p.roles)),
    ("principals", Json.nonEmptyList .string p.principals),
    ("resources", Json.nonEmptyList .string p.resources),
    ("resourceExpressions", Json.nonEmptyList .string p.expressions),
    ("condition", p.condition.map DiagnosedCondition.toJson)]

end DiagnosedRolePolicy

structure Diagnosis where
  allowed : Bool := false
  reason : Reason := .reasonNotAvailable
  /-- The request after its token was checked. -/
  request : Request
  /-- What the conditions saw. -/
  attributes : Dict Json := .empty
  grantedRoles : List String := []
  /-- In the order in which they were evaluated. -/
  rolePolicies : List DiagnosedRolePolicy := []
  policies : List DiagnosedPolicy := []
deriving DecidableEq, Inhabited

namespace Diagnosis

def withOutcome (d : Diagnosis) (outcome : Outcome) : List DiagnosedPolicy :=
  d.policies.filter (·.outcome = outcome)

/-- Of the policies whose conditions hold the first denial takes effect, or else the first grant;
the others are ignored. -/
def matched (granted denied : List Policy) : List DiagnosedPolicy :=
  match denied ++ granted with
  | [] => []
  | p :: r =>
    .ofPolicy p .takesEffect (some true) :: r.map fun p => .ofPolicy p .ignored none

def decoder : Decoder Diagnosis :=
  .record "EvaluationResult" (mk <$> .required "allowed" .bool
    <*> .required "reason" Reason.decoder <*> .required "requestContext" Request.decoder
    <*> .withDefault "attributes" (.dict .json) .empty <*> strings "grantedRoles"
    <*> .withDefault "rolePolicies" (.list DiagnosedRolePolicy.decoder) []
    <*> .withDefault "policies" (.list DiagnosedPolicy.decoder) [])

def toJson (d : Diagnosis) : Json :=
  .record [("allowed", some (.bool d.allowed)), ("reason", some d.reason.toJson),
    ("requestContext", some d.request.toJson), ("attributes", some (.ofDict d.attributes)),
    ("grantedRoles", some (Json.strings d.grantedRoles)),
    ("rolePolicies", some (Json.list DiagnosedRolePolicy.toJson d.rolePolicies)),
    ("policies", some (Json.list DiagnosedPolicy.toJson d.policies))]

end Diagnosis
end Turnstile

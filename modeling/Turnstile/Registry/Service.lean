import Turnstile.Policy.Cache

/-! Services made ready for evaluation. -/
namespace Turnstile

structure LoadedService where
  name : String
  kind : Option String := none
  policies : RuleCache Policy := .empty
  rolePolicies : RuleCache RolePolicy := .empty
  /-- Tells this service from others that have had its name. -/
  stamp : Nat := 0
deriving Inhabited

/-- Which of the two caches of a service. -/
inductive RuleKind where
  | policy
  | rolePolicy
deriving DecidableEq, Inhabited

/-- A condition that was compiled during an evaluation and is to be kept with its entry. -/
structure ConditionUpdate where
  service : String
  stamp : Nat
  kind : RuleKind
  id : String
  condition : CompiledCondition

/-- A condition that cannot be parsed is left out. -/
def compiledCondition? {α : Type} [Rule α] (functions : FunctionTable) (a : α) :
    Option CompiledCondition :=
  (Rule.condition? a).bind fun e => (CompiledCondition.compile e functions).toOption

namespace LoadedService

def addPolicy (functions : FunctionTable) (s : LoadedService) (p : Policy) : LoadedService :=
  { s with policies := s.policies.add p (compiledCondition? functions p) }

def addRolePolicy (functions : FunctionTable) (s : LoadedService) (p : RolePolicy) :
    LoadedService :=
  { s with rolePolicies := s.rolePolicies.add p (compiledCondition? functions p) }

def build (functions : FunctionTable) (stamp : Nat) (s : Service) : LoadedService :=
  s.rolePolicies.foldl (addRolePolicy functions)
    (s.policies.foldl (addPolicy functions) { name := s.name, kind := s.kind, stamp })

def clearConditions (s : LoadedService) : LoadedService :=
  { s with
    policies := s.policies.clearConditions
    rolePolicies := s.rolePolicies.clearConditions }

def setCondition (s : LoadedService) (u : ConditionUpdate) : LoadedService :=
  match u.kind with
  | .policy => { s with policies := s.policies.setCondition u.id u.condition }
  | .rolePolicy => { s with rolePolicies := s.rolePolicies.setCondition u.id u.condition }

end LoadedService
end Turnstile

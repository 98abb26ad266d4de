import Turnstile.Diagnosis
import Turnstile.Evaluation.Inquiry
import Turnstile.Evaluation.Matching
import Turnstile.Role.Resolution

/-! Answers to inquiries. A condition that fails in any way does not hold. -/
namespace Turnstile

/-- What changes while inquiries are answered. -/
structure Session (σ : Type) where
  /-- The state of what computes custom functions. -/
  resolver : σ
  results : ResultCache
  /-- The conditions compiled on the way, in order. -/
  compiled : List ConditionUpdate := []
  /-- The role policies in the order in which they were evaluated. -/
  rolePolicies : List DiagnosedRolePolicy := []

abbrev Evaluation (σ : Type) := StateM (Session σ)

/-- Where conditions are evaluated: who computes custom functions, and what time it is. -/
structure Surroundings (σ : Type) where
  resolve : Resolver σ
  now : Int

namespace Inquiry
variable {σ : Type}

def holdsCompiled (w : Surroundings σ) (q : Inquiry) (c : CompiledCondition) :
    Evaluation σ Bool := fun s =>
  match c.evaluate w.resolve w.now q.attributes (s.resolver, s.results) with
  | (r, resolver, results) => (r.toOption.getD false, { s with resolver, results })

/-- A rule without a condition holds. A condition that is not cached is compiled and offered to the
cache. -/
def holds {α : Type} [Rule α] (w : Surroundings σ) (q : Inquiry) (service : LoadedService)
    (kind : RuleKind) (cache : RuleCache α) (a : α) : Evaluation σ Bool :=
  match Rule.condition? a with
  | none => pure true
  | some expression =>
    match cache.condition? (Rule.id a) with
    | some c => holdsCompiled w q c
    | none =>
      match CompiledCondition.compile expression q.functions with
      | .error _ => pure false
      | .ok c => do
        let update : ConditionUpdate := ⟨service.name, service.stamp, kind, Rule.id a, c⟩
        modify fun s => { s with compiled := s.compiled ++ [update] }
        holdsCompiled w q c

/-- Policies sorted by their effect, and those whose conditions do not hold. -/
structure Matched where
  granted : List Policy := []
  denied : List Policy := []
  failed : List Policy := []

namespace Matched

def add (m : Matched) (p : Policy) (holds : Bool) : Matched :=
  if holds then
    match p.effect with
    | .grant => { m with granted := m.granted ++ [p] }
    | .deny => { m with denied := m.denied ++ [p] }
  else { m with failed := m.failed ++ [p] }

end Matched

/-- The policies of a service that apply to some principals; with a request, to its resource and
action as well. -/
def candidates (service : LoadedService) (principals : List String)
    (request : Option (String × String)) : List Policy :=
  (service.policies.related principals (request.map (·.1))).values.filter fun p =>
    matchesPrincipals principals p.principals &&
      request.all fun (resource, action) => p.coversRequest resource action

def matchedPolicies (w : Surroundings σ) (q : Inquiry) (principals : List String)
    (request : Option (String × String)) : Evaluation σ Matched :=
  q.services.foldlM (fun m service =>
    (candidates service principals request).foldlM (fun m p => do
      return m.add p (← q.holds w service .policy service.policies p)) m) {}

/-- The role policies of a service that apply to some principals and to the resource. -/
def roleCandidates (q : Inquiry) (service : LoadedService) (principals : List String)
    (seen : NameSet) : List RolePolicy :=
  (service.rolePolicies.related principals (some q.resource)).values.filter fun p =>
    !seen.contains p.id && matchesAnyPrincipal principals p.principals &&
      coversResource p.resources p.expressions q.resource

def addRolePolicy (w : Surroundings σ) (q : Inquiry) (service : LoadedService)
    (m : MatchedRolePolicies) (p : RolePolicy) : Evaluation σ MatchedRolePolicies := do
  let holds ← q.holds w service .rolePolicy service.rolePolicies p
  modify fun s => { s with rolePolicies := s.rolePolicies ++ [.ofRolePolicy p holds] }
  return if holds then
    match p.effect with
    | .grant => { m with granted := m.granted ++ [p] }
    | .deny => { m with denied := m.denied ++ [p] }
  else m

def roleSource (w : Surroundings σ) (q : Inquiry) : RoleSource (Evaluation σ) where
  size := q.services.foldl (fun n s => n + s.rolePolicies.size) 0
  query principals seen := q.services.foldlM (fun m service =>
    (q.roleCandidates service principals seen).foldlM (addRolePolicy w q service) m) {}

def roles (w : Surroundings σ) (q : Inquiry) : Evaluation σ NameSet :=
  (q.roleSource w).resolve q.principals

def principalsWith (q : Inquiry) (roles : NameSet) : List String :=
  q.principals ++ roles.toList.map Role.principal

def hasNoPolicies (q : Inquiry) : Bool := q.services.all (·.policies.isEmpty)

/-- Without any policy neither roles nor conditions are looked at. -/
def decide (w : Surroundings σ) (q : Inquiry) (request : Request) : Evaluation σ Diagnosis := do
  let d : Diagnosis := {
    request := { request with subject := q.subject }
    attributes := q.attributes
    reason := .noApplicablePolicies }
  if q.hasNoPolicies then return d
  let roles ← q.roles w
  let m ← q.matchedPolicies w (q.principalsWith roles) (some (q.resource, q.action))
  let decision := Decision.combine m.granted.length m.denied.length
  return { d with
    allowed := decision.allowed
    reason := decision.reason
    grantedRoles := roles.toList
    rolePolicies := (← get).rolePolicies
    policies := m.failed.map (DiagnosedPolicy.ofPolicy · .conditionFailed (some false)) ++
      Diagnosis.matched m.granted m.denied }

def onResource (p : Permission) : Option Permission :=
  if p.resource.isEmpty then none else some { p with expression := "" }

/-- The granted permissions on named resources less the denied ones. A denial without permissions
denies everything. -/
def permissions (w : Surroundings σ) (q : Inquiry) : Evaluation σ (List Permission) := do
  if q.hasNoPolicies then return []
  let roles ← q.roles w
  let m ← q.matchedPolicies w (q.principalsWith roles) none
  if m.denied.any (·.permissions.isEmpty) then return []
  return Permission.subtractAll ((m.granted.flatMap (·.permissions)).filterMap onResource)
    (m.denied.flatMap (·.permissions))

end Inquiry
end Turnstile

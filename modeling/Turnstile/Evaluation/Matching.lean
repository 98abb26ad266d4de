import Turnstile.Decision
import Turnstile.Policy.Basic
import Turnstile.Resource.Pattern

/-! Which rules apply to which principals, resources and actions. -/
namespace Turnstile

/-- Some group is presented as a whole. A policy without groups applies to everyone who presents
anything. -/
def matchesPrincipals (presented : List String) (groups : List (List String)) : Bool :=
  !presented.isEmpty && (groups.isEmpty || groups.any fun g => g.all presented.contains)

/-- Some principal is presented. -/
def matchesAnyPrincipal (presented principals : List String) : Bool :=
  !presented.isEmpty && (principals.isEmpty || principals.any presented.contains)

/-- No resources and expressions at all cover every resource. -/
def coversResource (resources expressions : List String) (resource : String) : Bool :=
  (resources.isEmpty && expressions.isEmpty) || resources.contains resource ||
    expressions.any fun e => expressionMatches e resource

namespace Permission

def coversResource (p : Permission) (resource : String) : Bool :=
  p.coversEverything || p.resource = resource ||
    (!p.expression.isEmpty && expressionMatches p.expression resource)

/-- What a denied permission takes away a granted one loses; here an invalid expression matches
everything. -/
def deniesResource (p : Permission) (resource : String) : Bool :=
  p.coversEverything || p.resource = resource ||
    (!p.expression.isEmpty && (expressionMatches? p.expression resource).getD true)

/-- What is left of a granted permission under a denied one: the actions that are not denied, if
there are any. -/
def subtract (granted denied : Permission) : Option Permission :=
  if denied.deniesResource granted.resource then
    let left := granted.actions.filter fun a => !denied.actions.contains a
    if denied.actions.isEmpty || left.isEmpty then none else some { granted with actions := left }
  else some granted

/-- The granted permissions less the denied ones. -/
def subtractAll (granted denied : List Permission) : List Permission :=
  granted.filterMap fun g => denied.foldlM subtract g

end Permission

def Policy.coversRequest (p : Policy) (resource action : String) : Bool :=
  p.permissions.isEmpty ||
    p.permissions.any fun q => q.coversResource resource && q.allowsAction action

/-- Denials win over grants. -/
def Decision.combine (granted denied : Nat) : Decision :=
  if 0 < denied then .deny .denyPolicyFound
  else if 0 < granted then .allow .grantPolicyFound
  else .deny .noApplicablePolicies

end Turnstile

import Turnstile.Policy.Basic
import Turnstile.Principal
import Turnstile.Role.Graph

/-! The roles of a subject: roles may grant and deny roles. -/
namespace Turnstile

/-- Role policies whose conditions hold, by effect. -/
structure MatchedRolePolicies where
  granted : List RolePolicy := []
  denied : List RolePolicy := []
deriving Inhabited

/-- Where role policies come from. -/
structure RoleSource (m : Type → Type) where
  /-- No more than this many policies have identifiers of their own. -/
  size : Nat
  /-- The policies for some principals; those already seen may be left out. -/
  query : List String → NameSet → m MatchedRolePolicies

/-- The state of a resolution. -/
structure RoleResolution where
  /-- The principals that the subject presents. -/
  rooted : NameSet
  graph : RoleGraph := {}
  /-- The policies that have been applied. -/
  seen : NameSet := .empty
  granted : NameSet := .empty
  /-- Denied by a presented principal. -/
  directlyDenied : NameSet := .empty
  /-- Granted, and denied by some role. -/
  denied : NameSet := .empty

namespace RoleResolution

/-- The root of policies that name no principal. -/
def anyPrincipal : String := "*"

def start (principals : List String) : RoleResolution where
  rooted := NameSet.ofList (anyPrincipal :: principals)

/-- The presented principals and the roles that a policy names. -/
def split (s : RoleResolution) (p : RolePolicy) : List String × List String :=
  if p.principals.isEmpty then ([anyPrincipal], [])
  else
    (p.principals.filter s.rooted.contains,
      (p.principals.filter fun q => !s.rooted.contains q).filterMap Role.ofPrincipal?)

def addParents (principals roles : List String) (n : RoleNode) : RoleNode :=
  { n with
    parentRoles := n.parentRoles.addAll roles
    parentPrincipals := n.parentPrincipals.addAll principals }

def addChildren (roles : List String) (n : RoleNode) : RoleNode :=
  { n with childRoles := n.childRoles.addAll roles }

/-- Also returns the roles that were not granted before. -/
def applyGrant (s : RoleResolution) (p : RolePolicy) : RoleResolution × List String :=
  let (principals, parents) := s.split p
  let roles := p.roles.filter fun r => !s.directlyDenied.contains r
  let graph := roles.foldl (fun g r => g.update r (addParents principals parents)) s.graph
  let graph := parents.foldl (fun g r => g.update r (addChildren roles)) graph
  let (granted, fresh) := roles.foldl (fun (granted, fresh) r =>
    if granted.contains r then (granted, fresh) else (granted.add r, fresh ++ [r])) (s.granted, [])
  ({ s with graph, granted }, fresh)

def addDeniers (principals roles : List String) (n : RoleNode) : RoleNode :=
  { n with
    deniedByRoles := n.deniedByRoles.addAll roles
    deniedByPrincipals := n.deniedByPrincipals.addAll principals }

def addDenied (roles : List String) (n : RoleNode) : RoleNode :=
  { n with deniedRoles := n.deniedRoles.addAll roles }

def applyDeny (s : RoleResolution) (p : RolePolicy) : RoleResolution :=
  let (principals, deniers) := s.split p
  let graph := deniers.foldl (fun g r => g.update r (addDenied p.roles)) s.graph
  let graph := p.roles.foldl (fun g r => g.update r (addDeniers principals deniers)) graph
  if principals.isEmpty then
    { s with graph, denied := s.denied.addAll (p.roles.filter s.granted.contains) }
  else { s with graph, directlyDenied := s.directlyDenied.addAll p.roles }

/-- Applies the denying policies that have not been seen. -/
def applyDenies (s : RoleResolution) (policies : List RolePolicy) : RoleResolution :=
  policies.foldl (fun s p =>
    if s.seen.contains p.id then s else { s with seen := s.seen.add p.id }.applyDeny p) s

/-- Applies the granting policies that have not been seen; returns the new roles, too. -/
def applyGrants (s : RoleResolution) (policies : List RolePolicy) : RoleResolution × List String :=
  policies.foldl (fun (s, fresh) p =>
    if s.seen.contains p.id then (s, fresh)
    else
      let (s, more) := { s with seen := s.seen.add p.id }.applyGrant p
      (s, fresh ++ more)) (s, [])

/-- Asks for the grants of new roles until there are none. A round that finds a role applies a
policy that has not been seen. -/
def expand {m : Type → Type} [Monad m] (source : RoleSource m) :
    Nat → RoleResolution → List String → m RoleResolution
  | 0, s, _ => pure s
  | _, s, [] => pure s
  | rounds + 1, s, fresh => do
    let matched ← source.query (fresh.map Role.principal) s.seen
    let (s, fresh) := s.applyGrants matched.granted
    expand source rounds s fresh

def deny (s : RoleResolution) (role : String) : RoleResolution :=
  let (graph, granted) := s.graph.deny role s.granted
  { s with graph, granted }

/-- The denied roles with a denier that is supported without any role still denied. -/
def safe (s : RoleResolution) : List String :=
  s.denied.toList.filter fun r => s.graph.canSafelyDeny r s.denied

/-- Denies the roles whose denials are safe; then the denied roles are found again. -/
def settleSafe (s : RoleResolution) : RoleResolution :=
  let s := s.safe.foldl deny s
  { s with denied := s.graph.deniedRoles s.granted }

/-- Denies whatever is still denied, in order of name. -/
def settleRest (s : RoleResolution) : RoleResolution :=
  s.denied.toList.foldl deny { s with denied := .empty }

/-- Denies take effect round by round, as long as some are safe. What is left are denials in a
circle; they all take effect. Every round removes a role. -/
def settle : Nat → RoleResolution → RoleResolution
  | 0, s => s
  | rounds + 1, s => if s.safe.isEmpty then s.settleRest else settle rounds s.settleSafe

end RoleResolution

/-- Denies by a presented principal come first: what they deny is never granted. Then grants spread
from role to role, and at last the denies by granted roles are collected. -/
def RoleSource.gather {m : Type → Type} [Monad m] (source : RoleSource m)
    (principals : List String) : m RoleResolution := do
  let s := RoleResolution.start principals
  let direct ← source.query principals s.seen
  let (s, fresh) := (s.applyDenies direct.denied).applyGrants direct.granted
  let s ← s.expand source (source.size + 1) fresh
  let matched ← source.query (s.granted.toList.map Role.principal) s.seen
  let s := s.applyDenies matched.denied
  return { s with graph := s.graph.restrict s.granted }

/-- The granted roles that are left when the denies by granted roles have taken effect. -/
def RoleSource.resolve {m : Type → Type} [Monad m] (source : RoleSource m)
    (principals : List String) : m NameSet := do
  let s ← source.gather principals
  return (s.settle (s.granted.size + 1)).granted

end Turnstile

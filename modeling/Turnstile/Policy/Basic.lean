import Turnstile.Dict

/-! Rules that grant or deny permissions and roles. -/
namespace Turnstile

inductive Effect where
  | grant
  | deny
deriving DecidableEq, Inhabited

namespace Effect

def all : List Effect := [grant, deny]

def name : Effect → String
  | grant => "grant"
  | deny => "deny"

end Effect

/-- Actions on a resource, or on the resources that match an expression. -/
structure Permission where
  resource : String := ""
  expression : String := ""
  /-- Empty means every action. -/
  actions : List String := []
deriving DecidableEq, Inhabited

namespace Permission

def onResource (resource : String) (actions : List String) : Permission := { resource, actions }

def onExpression (expression : String) (actions : List String) : Permission :=
  { expression, actions }

/-- Neither a resource nor an expression is named. -/
def coversEverything (p : Permission) : Bool := p.resource.isEmpty && p.expression.isEmpty

def allowsAction (p : Permission) (action : String) : Bool :=
  p.actions.isEmpty || p.actions.contains action

end Permission

/-- An empty condition is none. -/
def effectiveCondition (condition : Option String) : Option String :=
  condition.filter fun c => !c.isEmpty

/-- Permissions for principals. -/
structure Policy where
  id : String
  name : String := ""
  effect : Effect
  /-- Empty means every permission. -/
  permissions : List Permission := []
  /-- A subject presents all principals of some group; no groups mean every subject. -/
  principals : List (List String) := []
  condition : Option String := none
  metadata : Dict String := .empty
deriving DecidableEq, Inhabited

namespace Policy

def withPermission (p : Policy) (permission : Permission) : Policy :=
  { p with permissions := p.permissions ++ [permission] }

/-- Adds a group. -/
def withPrincipals (p : Policy) (group : List String) : Policy :=
  { p with principals := p.principals ++ [group] }

def withCondition (p : Policy) (condition : String) : Policy :=
  { p with condition := some condition }

def condition? (p : Policy) : Option String := effectiveCondition p.condition

end Policy

/-- Roles for principals, possibly on some resources only. -/
structure RolePolicy where
  id : String
  name : String := ""
  effect : Effect
  roles : List String := []
  /-- A subject presents one of these; none mean every subject. -/
  principals : List String := []
  resources : List String := []
  expressions : List String := []
  condition : Option String := none
  metadata : Dict String := .empty
deriving DecidableEq, Inhabited

namespace RolePolicy

/-- Replaces the principals. -/
def withPrincipals (p : RolePolicy) (principals : List String) : RolePolicy := { p with principals }

def withResource (p : RolePolicy) (resource : String) : RolePolicy :=
  { p with resources := p.resources ++ [resource] }

def withExpression (p : RolePolicy) (expression : String) : RolePolicy :=
  { p with expressions := p.expressions ++ [expression] }

def withCondition (p : RolePolicy) (condition : String) : RolePolicy :=
  { p with condition := some condition }

def condition? (p : RolePolicy) : Option String := effectiveCondition p.condition

def coversEverything (p : RolePolicy) : Bool := p.resources.isEmpty && p.expressions.isEmpty

end RolePolicy

/-- Policies under a common name. -/
structure Service where
  name : String
  kind : Option String := none
  policies : List Policy := []
  rolePolicies : List RolePolicy := []
  metadata : Dict String := .empty
deriving DecidableEq, Inhabited

namespace Service

/-- The service whose policies apply to every service. -/
def globalName : String := "global"

def withPolicy (s : Service) (p : Policy) : Service := { s with policies := s.policies ++ [p] }

def withRolePolicy (s : Service) (p : RolePolicy) : Service :=
  { s with rolePolicies := s.rolePolicies ++ [p] }

end Service

/-- A function that conditions may call and that is computed elsewhere. -/
structure FunctionDefinition where
  name : String
  description : String := ""
  url : String := ""
  /-- The address for a caller that runs next to the function. -/
  localUrl : String := ""
  /-- The certificates to trust. -/
  authority : String := ""
  cachable : Bool := false
  /-- How many seconds a result is kept; otherwise than positive means for ever. -/
  lifetime : Int64 := 0
  metadata : Dict String := .empty
deriving DecidableEq, Inhabited

/-- Everything that a store holds. -/
structure Snapshot where
  functions : List FunctionDefinition := []
  services : List Service := []
deriving DecidableEq, Inhabited

end Turnstile

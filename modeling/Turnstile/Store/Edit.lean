import Turnstile.Error
import Turnstile.Store.Change

/-! Looking up and changing what a store holds. -/
namespace Turnstile
namespace Snapshot

def serviceMissing (name : String) : Error := .store s!"service {name} not found"

def policyMissing (service id : String) : Error := .store s!"policy {id} not found in {service}"

def rolePolicyMissing (service id : String) : Error :=
  .store s!"role policy {id} not found in {service}"

def functionMissing (name : String) : Error := .store s!"function {name} not found"

/-- Of services with one name the first one is found. -/
def service (s : Snapshot) (name : String) : Except Error Service :=
  match s.services.find? (·.name = name) with
  | some x => .ok x
  | none => .error (serviceMissing name)

def policy (s : Snapshot) (service id : String) : Except Error Policy := do
  match (← s.service service).policies.find? (·.id = id) with
  | some p => .ok p
  | none => .error (policyMissing service id)

def rolePolicy (s : Snapshot) (service id : String) : Except Error RolePolicy := do
  match (← s.service service).rolePolicies.find? (·.id = id) with
  | some p => .ok p
  | none => .error (rolePolicyMissing service id)

def function (s : Snapshot) (name : String) : Except Error FunctionDefinition :=
  match s.functions.find? (·.name = name) with
  | some f => .ok f
  | none => .error (functionMissing name)

/-- Changes the first of the services with a name. -/
def changeFirst (name : String) (f : Service → Except Error Service) :
    List Service → Except Error (List Service)
  | [] => .error (serviceMissing name)
  | x :: r =>
    if x.name = name then return (← f x) :: r else return x :: (← changeFirst name f r)

def changeService (s : Snapshot) (name : String) (f : Service → Except Error Service) :
    Except Error Snapshot := do
  return { s with services := ← changeFirst name f s.services }

end Snapshot

/-- A change that somebody asks a store for. -/
inductive Edit where
  | createService (service : Service)
  | deleteService (name : String)
  | createPolicy (service : String) (policy : Policy)
  | deletePolicy (service id : String)
  | createRolePolicy (service : String) (policy : RolePolicy)
  | deleteRolePolicy (service id : String)
  | createFunction (function : FunctionDefinition)
  | deleteFunction (name : String)
  /-- Those who follow the store read everything again. -/
  | replaceAll (snapshot : Snapshot)
  /-- Those who follow the store compare what they have with a listing. -/
  | listAll (snapshot : Snapshot)
deriving DecidableEq

namespace Edit

/-- Drops what a condition holds for; there must be something. -/
def dropping {α : Type} (p : α → Bool) (missing : Error) (l : List α) : Except Error (List α) :=
  if l.any p then .ok (l.filter (!p ·)) else .error missing

/-- What is created under an identifier in use takes its place, except for services, which must be
new. -/
def apply (s : Snapshot) : Edit → Except Error Snapshot
  | createService x =>
    if s.services.any (·.name = x.name) then .error (.store s!"service {x.name} already exists")
    else .ok { s with services := s.services ++ [x] }
  | deleteService name => do
    return { s with
      services := ← dropping (·.name = name) (Snapshot.serviceMissing name) s.services }
  | createPolicy service p => s.changeService service fun x =>
    .ok { x with policies := x.policies.filter (·.id ≠ p.id) ++ [p] }
  | deletePolicy service id => s.changeService service fun x => do
    return { x with
      policies := ← dropping (·.id = id) (Snapshot.policyMissing service id) x.policies }
  | createRolePolicy service p => s.changeService service fun x =>
    .ok { x with rolePolicies := x.rolePolicies.filter (·.id ≠ p.id) ++ [p] }
  | deleteRolePolicy service id => s.changeService service fun x => do
    return { x with
      rolePolicies :=
        ← dropping (·.id = id) (Snapshot.rolePolicyMissing service id) x.rolePolicies }
  | createFunction f => .ok { s with functions := s.functions.filter (·.name ≠ f.name) ++ [f] }
  | deleteFunction name => do
    return { s with
      functions := ← dropping (·.name = name) (Snapshot.functionMissing name) s.functions }
  | replaceAll snapshot => .ok snapshot
  | listAll snapshot => .ok snapshot

/-- How an edit is announced. -/
def change : Edit → Change
  | createService x => .serviceAdded x
  | deleteService name => .servicesDeleted [name]
  | createPolicy service p => .policiesAdded [⟨service, p⟩]
  | deletePolicy service id => .policiesDeleted [⟨service, id⟩]
  | createRolePolicy service p => .rolePoliciesAdded [⟨service, p⟩]
  | deleteRolePolicy service id => .rolePoliciesDeleted [⟨service, id⟩]
  | createFunction f => .functionAdded f
  | deleteFunction name => .functionsDeleted [name]
  | replaceAll _ => .replaced
  | listAll snapshot => .listed (.ofSnapshot snapshot)

end Edit
end Turnstile

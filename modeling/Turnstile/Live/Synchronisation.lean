import Turnstile.Registry.Basic
import Turnstile.Store.Basic

/-! Keeping what is loaded in step with a store. -/
namespace Turnstile

/-- Changes of what is loaded. A failure leaves in place what came before it. -/
abbrev Loading := ExceptT Error (StateM Registry)

namespace Loading

def attempt (f : Registry → Except Error Registry) : Loading Unit := fun r =>
  match f r with
  | .ok r => (.ok (), r)
  | .error e => (.error e, r)

def addService (s : Service) : Loading Unit := modify (·.addService s)

def deleteService (name : String) : Loading Unit := modify (·.deleteService name)

def addPolicy (service : String) (p : Policy) : Loading Unit := attempt (·.addPolicy service p)

def deletePolicy (service id : String) : Loading Unit := attempt (·.deletePolicy service id)

def addRolePolicy (service : String) (p : RolePolicy) : Loading Unit :=
  attempt (·.addRolePolicy service p)

def deleteRolePolicy (service id : String) : Loading Unit :=
  attempt (·.deleteRolePolicy service id)

def addFunction (d : FunctionDefinition) : Loading Unit := modify (·.addFunction d)

def deleteFunction (name : String) : Loading Unit := modify (·.deleteFunction name)

/-- A failure counts as done. -/
def orSkip (l : Loading Unit) : Loading Unit := tryCatch l fun _ => pure ()

variable {α : Type} [PolicyStore α]

/-- Reads everything again. -/
def reload (store : α) : Loading Unit := do
  let snapshot ← PolicyStore.snapshot store
  modify (·.reload snapshot)

/-- Services and identifiers, in order. -/
def locations (services : Dict String) : List (String × String) :=
  (services.entries.map fun e => (e.2, e.1)).mergeSort fun a b =>
    a.1 < b.1 || a.1 = b.1 && a.2 ≤ b.2

def checkService (services : List String) (service id : String) : Loading Unit :=
  if service ∈ services then pure ()
  else throw (.cache s!"item {id} references unknown service {service}")

def matchServices (store : α) (listed : List String) : Loading Unit := do
  let loaded := (← get).serviceNames
  (listed.filter (· ∉ loaded)).forM fun name => do
    addService (← PolicyStore.service store name)
  (loaded.filter (· ∉ listed)).forM deleteService

def matchPolicies (store : α) (services : List String) (listed : List (String × String)) :
    Loading Unit := do
  let loaded := (← get).policyLocations
  (listed.filter (· ∉ loaded)).forM fun (service, id) => do
    checkService services service id
    addPolicy service (← PolicyStore.policy store service id)
  (loaded.filter (· ∉ listed)).forM fun (service, id) => deletePolicy service id

def matchRolePolicies (store : α) (services : List String) (listed : List (String × String)) :
    Loading Unit := do
  let loaded := (← get).rolePolicyLocations
  (listed.filter (· ∉ loaded)).forM fun (service, id) => do
    checkService services service id
    addRolePolicy service (← PolicyStore.rolePolicy store service id)
  (loaded.filter (· ∉ listed)).forM fun (service, id) =>
    deleteRolePolicy service id

def matchFunctions (store : α) (listed : NameSet) : Loading Unit := do
  let loaded := (← get).functions.customNames
  (listed.toList.filter (· ∉ loaded)).forM fun name => do
    addFunction (← PolicyStore.function store name)
  (loaded.filter (!listed.contains ·)).forM deleteFunction

/-- Fetches what is listed and not loaded, and drops what is loaded and not listed. -/
def synchronise (store : α) (l : Listing) : Loading Unit := do
  matchServices store l.services
  let services := (← get).serviceNames
  matchPolicies store services (locations l.policies)
  matchRolePolicies store services (locations l.rolePolicies)
  matchFunctions store (.ofList l.functions)

/-- Of several items those that fail are skipped; only what concerns everything can fail. -/
def apply (store : α) : Change → Loading Unit
  | .serviceAdded s => addService s
  | .servicesDeleted names => names.forM deleteService
  | .policiesAdded l => l.forM fun x => (addPolicy x.service x.policy).orSkip
  | .policiesDeleted l => l.forM fun x => (deletePolicy x.service x.id).orSkip
  | .rolePoliciesAdded l => l.forM fun x => (addRolePolicy x.service x.policy).orSkip
  | .rolePoliciesDeleted l => l.forM fun x => (deleteRolePolicy x.service x.id).orSkip
  | .functionAdded d => addFunction d
  | .functionsDeleted names => names.forM deleteFunction
  | .listed l => synchronise store l
  | .replaced => reload store

end Loading
end Turnstile

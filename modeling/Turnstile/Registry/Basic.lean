import Turnstile.Registry.Service

/-! Everything that is loaded for evaluation. -/
namespace Turnstile

structure Registry where
  services : Dict LoadedService := .empty
  functions : FunctionTable := .builtins
  results : ResultCache := {}
  /-- Counts the changes of the function table. -/
  generation : Nat := 0
  /-- The stamp of the next service. -/
  stamp : Nat := 0
  /-- Condition updates that wait to be applied, in the order of their arrival; `none` if nobody
  applies them. -/
  updates : Option (List ConditionUpdate) := none
deriving Inhabited

namespace Registry

def service? (r : Registry) (name : String) : Option LoadedService := r.services.get? name

def global? (r : Registry) : Option LoadedService := r.service? Service.globalName

/-- Replaces everything. Of services with one name the last one counts. -/
def reload (r : Registry) (snapshot : Snapshot) : Registry :=
  let functions :=
    snapshot.functions.foldl (fun t d => t.withCustom d.name d) FunctionTable.builtins
  let (services, stamp) := snapshot.services.foldl (fun (services, stamp) s =>
    (Dict.insert services s.name (.build functions stamp s), stamp + 1)) (Dict.empty, r.stamp)
  { r with
    services, functions, stamp
    results := {}
    generation := r.generation + 1 }

/-- Accepts a service that was built against the function table of a generation, unless the table
has changed since. -/
def insertBuilt? (r : Registry) (generation : Nat) (s : LoadedService) : Option Registry :=
  if r.generation = generation then
    some { r with services := r.services.insert s.name s, stamp := max r.stamp (s.stamp + 1) }
  else none

/-- Takes the place of a service with the same name. -/
def addService (r : Registry) (s : Service) : Registry :=
  (r.insertBuilt? r.generation (.build r.functions r.stamp s)).getD r

def deleteService (r : Registry) (name : String) : Registry :=
  { r with services := r.services.erase name }

/-- Changes a service that is loaded. -/
def changeService (r : Registry) (name : String) (f : LoadedService → LoadedService) :
    Except Error Registry :=
  match r.service? name with
  | some s => .ok { r with services := r.services.insert name (f s) }
  | none => .error (.serviceNotFound name)

def addPolicy (r : Registry) (service : String) (p : Policy) : Except Error Registry :=
  r.changeService service (·.addPolicy r.functions p)

def deletePolicy (r : Registry) (service id : String) : Except Error Registry :=
  r.changeService service fun s => { s with policies := s.policies.remove id }

def addRolePolicy (r : Registry) (service : String) (p : RolePolicy) : Except Error Registry :=
  r.changeService service (·.addRolePolicy r.functions p)

def deleteRolePolicy (r : Registry) (service id : String) : Except Error Registry :=
  r.changeService service fun s => { s with rolePolicies := s.rolePolicies.remove id }

/-- A new function table makes the compiled conditions and the results of the function stale. -/
def changeFunctions (r : Registry) (name : String) (functions : FunctionTable) : Registry :=
  { r with
    functions
    generation := r.generation + 1
    results := r.results.purge name
    services := r.services.map LoadedService.clearConditions }

def addFunction (r : Registry) (d : FunctionDefinition) : Registry :=
  r.changeFunctions d.name (r.functions.withCustom d.name d)

def deleteFunction (r : Registry) (name : String) : Registry :=
  r.changeFunctions name (r.functions.withoutCustom name)

def cleanResults (r : Registry) (now : Int) : Nat × Registry :=
  let (n, results) := r.results.clean now
  (n, { r with results })

/-- An update reaches the service that it was compiled for, if that is still loaded. -/
def applyUpdate (r : Registry) (u : ConditionUpdate) : Registry :=
  match r.service? u.service with
  | some s =>
    if s.stamp = u.stamp then { r with services := r.services.insert u.service (s.setCondition u) }
    else r
  | none => r

/-- Applies all updates that wait. -/
def applyUpdates (r : Registry) : Registry :=
  match r.updates with
  | none => r
  | some us => us.foldl applyUpdate { r with updates := some [] }

def serviceNames (r : Registry) : List String := r.services.keys

/-- Every loaded policy as its service and identifier. -/
def policyLocations (r : Registry) : List (String × String) :=
  r.services.entries.flatMap fun e => e.2.policies.ids.map (e.1, ·)

def rolePolicyLocations (r : Registry) : List (String × String) :=
  r.services.entries.flatMap fun e => e.2.rolePolicies.ids.map (e.1, ·)

end Registry
end Turnstile

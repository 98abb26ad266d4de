import Turnstile.Proofs.Policy.Content
import Turnstile.Registry.Basic

/-! What histories of changes leave in a registry. A catalogue has what is live after a history, and
nothing that serves to find it; every registry keeps the content of its catalogue. -/
namespace Turnstile

/-- The rules of a service by identifier. -/
structure LiveService where
  policies : Dict Policy := .empty
  rolePolicies : Dict RolePolicy := .empty
deriving DecidableEq

namespace LiveService

def addPolicy (s : LiveService) (p : Policy) : LiveService :=
  { s with policies := s.policies.insert p.id p }

def addRolePolicy (s : LiveService) (p : RolePolicy) : LiveService :=
  { s with rolePolicies := s.rolePolicies.insert p.id p }

/-- Of rules with one identifier the last one counts. -/
def ofService (s : Service) : LiveService :=
  s.rolePolicies.foldl addRolePolicy (s.policies.foldl addPolicy {})

end LiveService

structure Catalogue where
  services : Dict LiveService := .empty
  functions : FunctionTable := .builtins

/-- A change of what is loaded. -/
inductive Mutation where
  | reload (snapshot : Snapshot)
  | addService (s : Service)
  | deleteService (name : String)
  | addPolicy (service : String) (p : Policy)
  | deletePolicy (service id : String)
  | addRolePolicy (service : String) (p : RolePolicy)
  | deleteRolePolicy (service id : String)
  | addFunction (d : FunctionDefinition)
  | deleteFunction (name : String)

namespace Catalogue

/-- A service that is not there is not changed. -/
def changeService (c : Catalogue) (name : String) (f : LiveService → LiveService) : Catalogue :=
  match c.services.get? name with
  | some s => { c with services := c.services.insert name (f s) }
  | none => c

def change (c : Catalogue) : Mutation → Catalogue
  | .reload snapshot => {
      services := snapshot.services.foldl (fun d s => d.insert s.name (.ofService s)) .empty
      functions := snapshot.functions.foldl (fun t d => t.withCustom d.name d) .builtins }
  | .addService s => { c with services := c.services.insert s.name (.ofService s) }
  | .deleteService name => { c with services := c.services.erase name }
  | .addPolicy service p => c.changeService service (·.addPolicy p)
  | .deletePolicy service id =>
    c.changeService service fun s => { s with policies := s.policies.erase id }
  | .addRolePolicy service p => c.changeService service (·.addRolePolicy p)
  | .deleteRolePolicy service id =>
    c.changeService service fun s => { s with rolePolicies := s.rolePolicies.erase id }
  | .addFunction d => { c with functions := c.functions.withCustom d.name d }
  | .deleteFunction name => { c with functions := c.functions.withoutCustom name }

/-- What is live after a history of changes. -/
def after (history : List Mutation) : Catalogue := history.foldl change {}

end Catalogue

namespace Registry

/-- A change that fails leaves everything as it was. -/
def change (r : Registry) : Mutation → Registry
  | .reload snapshot => r.reload snapshot
  | .addService s => r.addService s
  | .deleteService name => r.deleteService name
  | .addPolicy service p => (r.addPolicy service p).toOption.getD r
  | .deletePolicy service id => (r.deletePolicy service id).toOption.getD r
  | .addRolePolicy service p => (r.addRolePolicy service p).toOption.getD r
  | .deleteRolePolicy service id => (r.deleteRolePolicy service id).toOption.getD r
  | .addFunction d => r.addFunction d
  | .deleteFunction name => r.deleteFunction name

/-- What a history of changes makes of an empty registry. -/
def after (history : List Mutation) : Registry := history.foldl change {}

end Registry

namespace LoadedService
variable {functions : FunctionTable} {s : LoadedService} {live : LiveService}

/-- Both caches of a service keep what is live. -/
structure Keeps (functions : FunctionTable) (s : LoadedService) (live : LiveService) : Prop where
  policies : s.policies.Keeps functions live.policies
  rolePolicies : s.rolePolicies.Keeps functions live.rolePolicies

theorem Keeps.addPolicy (h : s.Keeps functions live) (p : Policy) :
    (s.addPolicy functions p).Keeps functions (live.addPolicy p) :=
  ⟨h.policies.add p, h.rolePolicies⟩

theorem Keeps.addRolePolicy (h : s.Keeps functions live) (p : RolePolicy) :
    (s.addRolePolicy functions p).Keeps functions (live.addRolePolicy p) :=
  ⟨h.policies, h.rolePolicies.add p⟩

theorem Keeps.removePolicy (h : s.Keeps functions live) (id : String) :
    { s with policies := s.policies.remove id }.Keeps functions
      { live with policies := live.policies.erase id } :=
  ⟨h.policies.remove id, h.rolePolicies⟩

theorem Keeps.removeRolePolicy (h : s.Keeps functions live) (id : String) :
    { s with rolePolicies := s.rolePolicies.remove id }.Keeps functions
      { live with rolePolicies := live.rolePolicies.erase id } :=
  ⟨h.policies, h.rolePolicies.remove id⟩

theorem Keeps.clearConditions (h : s.Keeps functions live) (functions' : FunctionTable) :
    s.clearConditions.Keeps functions' live :=
  ⟨h.policies.clearConditions functions', h.rolePolicies.clearConditions functions'⟩

@[simp] theorem name_build (functions : FunctionTable) (stamp : Nat) (s : Service) :
    (build functions stamp s).name = s.name := by
  have hpolicies (l : List Policy) (t : LoadedService) :
      (l.foldl (LoadedService.addPolicy functions) t).name = t.name := by
    induction l generalizing t with
    | nil => rfl
    | cons p l ih => exact ih _
  have hrolePolicies (l : List RolePolicy) (t : LoadedService) :
      (l.foldl (LoadedService.addRolePolicy functions) t).name = t.name := by
    induction l generalizing t with
    | nil => rfl
    | cons p l ih => exact ih _
  rw [build, hrolePolicies, hpolicies]

theorem keeps_build (functions : FunctionTable) (stamp : Nat) (s : Service) :
    (build functions stamp s).Keeps functions (.ofService s) := by
  rw [build, LiveService.ofService]
  refine List.foldl_rel (List.foldl_rel ?_ ?_) ?_
  · exact ⟨RuleCache.keeps_empty, RuleCache.keeps_empty⟩
  · exact fun p _ s live h => h.addPolicy p
  · exact fun p _ s live h => h.addRolePolicy p

end LoadedService

/-- The services of two maps are related name by name. -/
def ServicesKeep (functions : FunctionTable) (loaded : Dict LoadedService) (live : Dict LiveService) :
    Prop :=
  ∀ name, Option.Rel (LoadedService.Keeps functions) (loaded.get? name) (live.get? name)

namespace ServicesKeep
variable {functions : FunctionTable} {loaded : Dict LoadedService} {live : Dict LiveService}

theorem empty (functions : FunctionTable) : ServicesKeep functions .empty .empty := fun _ => .none

theorem insert (h : ServicesKeep functions loaded live) {s : LoadedService} {l : LiveService}
    (hs : s.Keeps functions l) (name : String) :
    ServicesKeep functions (loaded.insert name s) (live.insert name l) := by
  intro n
  rw [Dict.get?_insert, Dict.get?_insert]
  by_cases hn : n = name
  · rw [if_pos hn, if_pos hn]
    exact .some hs
  · rw [if_neg hn, if_neg hn]
    exact h n

theorem erase (h : ServicesKeep functions loaded live) (name : String) :
    ServicesKeep functions (loaded.erase name) (live.erase name) := by
  intro n
  rw [Dict.get?_erase, Dict.get?_erase]
  by_cases hn : n = name
  · rw [if_pos hn, if_pos hn]
    exact .none
  · rw [if_neg hn, if_neg hn]
    exact h n

theorem clearConditions (h : ServicesKeep functions loaded live) (functions' : FunctionTable) :
    ServicesKeep functions' (loaded.map LoadedService.clearConditions) live := by
  intro n
  have hn := h n
  rw [Dict.get?_map]
  generalize loaded.get? n = s, live.get? n = l at hn ⊢
  cases hn with
  | none => exact .none
  | some hs => exact .some (hs.clearConditions functions')

end ServicesKeep

namespace Registry
variable {r : Registry} {c : Catalogue}

/-- The registry has the functions of the catalogue and keeps its services. -/
structure Keeps (r : Registry) (c : Catalogue) : Prop where
  functions : r.functions = c.functions
  services : ServicesKeep c.functions r.services c.services

/-- A change of a service that is there, or an error otherwise. -/
private theorem Keeps.changeService (h : r.Keeps c) {f : LoadedService → LoadedService}
    {g : LiveService → LiveService} (hf : ∀ s l, s.Keeps c.functions l → (f s).Keeps c.functions (g l))
    (name : String) :
    ((r.changeService name f).toOption.getD r).Keeps (c.changeService name g) := by
  have hn := h.services name
  rw [Registry.changeService, Catalogue.changeService, service?]
  cases hr : r.services.get? name with
  | none =>
    rw [hr] at hn
    cases hc : c.services.get? name with
    | none => exact h
    | some l =>
      rw [hc] at hn
      cases hn
  | some s =>
    rw [hr] at hn
    cases hc : c.services.get? name with
    | none =>
      rw [hc] at hn
      cases hn
    | some l =>
      rw [hc] at hn
      cases hn with
      | some hs => exact ⟨h.functions, h.services.insert (hf s l hs) name⟩

theorem keeps_reload (r : Registry) (c : Catalogue) (snapshot : Snapshot) :
    (r.reload snapshot).Keeps (c.change (.reload snapshot)) := by
  refine ⟨rfl, ?_⟩
  exact List.foldl_rel
    (r := fun (loaded : Dict LoadedService × Nat) live => ServicesKeep _ loaded.1 live)
    (ServicesKeep.empty _) fun s _ _ _ h => h.insert (LoadedService.keeps_build _ _ s) s.name

theorem Keeps.changeFunctions (h : r.Keeps c) (name : String) (functions : FunctionTable) :
    (r.changeFunctions name functions).Keeps { c with functions } :=
  ⟨rfl, h.services.clearConditions functions⟩

/-- Every change keeps in the registry what it makes live. -/
theorem Keeps.change (h : r.Keeps c) (m : Mutation) : (r.change m).Keeps (c.change m) := by
  cases m with
  | reload snapshot => exact keeps_reload r c snapshot
  | addService s =>
    rw [Registry.change, Registry.addService, insertBuilt?, if_pos rfl, Option.getD_some, h.functions,
      LoadedService.name_build]
    exact ⟨rfl, h.services.insert (LoadedService.keeps_build _ _ s) s.name⟩
  | deleteService name => exact ⟨h.functions, h.services.erase name⟩
  | addPolicy service p =>
    rw [Registry.change, Registry.addPolicy, h.functions]
    exact h.changeService (fun s l hs => hs.addPolicy p) service
  | deletePolicy service id => exact h.changeService (fun s l hs => hs.removePolicy id) service
  | addRolePolicy service p =>
    rw [Registry.change, Registry.addRolePolicy, h.functions]
    exact h.changeService (fun s l hs => hs.addRolePolicy p) service
  | deleteRolePolicy service id =>
    exact h.changeService (fun s l hs => hs.removeRolePolicy id) service
  | addFunction d =>
    rw [Registry.change, Registry.addFunction, h.functions]
    exact h.changeFunctions d.name _
  | deleteFunction name =>
    rw [Registry.change, Registry.deleteFunction, h.functions]
    exact h.changeFunctions name _

/-- A registry keeps what is live after its history. -/
theorem keeps_after (history : List Mutation) : (after history).Keeps (.after history) :=
  List.foldl_rel ⟨rfl, ServicesKeep.empty _⟩ fun m _ _ _ h => h.change m

end Registry
end Turnstile

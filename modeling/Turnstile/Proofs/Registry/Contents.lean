import Turnstile.Proofs.Registry.History

/-! What is loaded, told without what serves to find it: the kind of every service and its rules by
identifier. Every change of a registry is a plain change of these contents. -/
namespace Turnstile

/-- The kind and the rules of a service. -/
abbrev Content := Option String × LiveService

namespace Content

def addPolicy (p : Policy) (c : Content) : Content := (c.1, c.2.addPolicy p)

def deletePolicy (id : String) (c : Content) : Content :=
  (c.1, { c.2 with policies := c.2.policies.erase id })

def addRolePolicy (p : RolePolicy) (c : Content) : Content := (c.1, c.2.addRolePolicy p)

def deleteRolePolicy (id : String) (c : Content) : Content :=
  (c.1, { c.2 with rolePolicies := c.2.rolePolicies.erase id })

end Content

def Service.content (s : Service) : Content := (s.kind, .ofService s)

namespace RuleCache
variable {α : Type} [Rule α]

theorem entries_add (c : RuleCache α) (a : α) (condition : Option CompiledCondition) :
    (c.add a condition).entries = c.entries.insert (Rule.id a) a := by
  apply Dict.ext_get?
  intro i
  rw [get?_entries_add, Dict.get?_insert]

theorem entries_remove (c : RuleCache α) (id : String) :
    (c.remove id).entries = c.entries.erase id := by
  apply Dict.ext_get?
  intro i
  rw [get?_entries_remove, Dict.get?_erase]

end RuleCache

namespace LoadedService

/-- The rules of a service by identifier. -/
def live (s : LoadedService) : LiveService := ⟨s.policies.entries, s.rolePolicies.entries⟩

def content (s : LoadedService) : Content := (s.kind, s.live)

theorem live_addPolicy (functions : FunctionTable) (s : LoadedService) (p : Policy) :
    (s.addPolicy functions p).live = s.live.addPolicy p := by
  rw [live, addPolicy, RuleCache.entries_add]
  rfl

theorem live_addRolePolicy (functions : FunctionTable) (s : LoadedService) (p : RolePolicy) :
    (s.addRolePolicy functions p).live = s.live.addRolePolicy p := by
  rw [live, addRolePolicy, RuleCache.entries_add]
  rfl

theorem content_addPolicy (functions : FunctionTable) (p : Policy) (s : LoadedService) :
    (s.addPolicy functions p).content = s.content.addPolicy p :=
  congrArg (s.kind, ·) (live_addPolicy functions s p)

theorem content_addRolePolicy (functions : FunctionTable) (p : RolePolicy) (s : LoadedService) :
    (s.addRolePolicy functions p).content = s.content.addRolePolicy p :=
  congrArg (s.kind, ·) (live_addRolePolicy functions s p)

theorem content_build (functions : FunctionTable) (stamp : Nat) (s : Service) :
    (build functions stamp s).content = s.content := by
  have hpolicies (l : List Policy) (t : LoadedService) :
      (l.foldl (addPolicy functions) t).content = (t.kind, l.foldl LiveService.addPolicy t.live) := by
    induction l generalizing t with
    | nil => rfl
    | cons p l ih =>
      rw [List.foldl_cons, List.foldl_cons, ih, live_addPolicy]
      rfl
  have hrolePolicies (l : List RolePolicy) (t : LoadedService) :
      (l.foldl (addRolePolicy functions) t).content =
        (t.kind, l.foldl LiveService.addRolePolicy t.live) := by
    induction l generalizing t with
    | nil => rfl
    | cons p l ih =>
      rw [List.foldl_cons, List.foldl_cons, ih, live_addRolePolicy]
      rfl
  obtain ⟨hkind, hlive⟩ := Prod.mk.inj (hpolicies s.policies { name := s.name, kind := s.kind, stamp })
  rw [build, hrolePolicies, hkind, hlive]
  rfl

theorem content_removePolicy (s : LoadedService) (id : String) :
    { s with policies := s.policies.remove id }.content = s.content.deletePolicy id := by
  rw [content, live, RuleCache.entries_remove]
  rfl

theorem content_removeRolePolicy (s : LoadedService) (id : String) :
    { s with rolePolicies := s.rolePolicies.remove id }.content = s.content.deleteRolePolicy id := by
  rw [content, live, RuleCache.entries_remove]
  rfl

end LoadedService

/-- Of services with one name the last one counts. -/
def Snapshot.contents (s : Snapshot) : Dict Content :=
  .ofList (s.services.map fun x => (x.name, x.content))

namespace Registry
variable {r : Registry}

def contents (r : Registry) : Dict Content := r.services.map LoadedService.content

theorem contents_addService (r : Registry) (s : Service) :
    (r.addService s).contents = r.contents.insert s.name s.content := by
  rw [addService, insertBuilt?, if_pos rfl, Option.getD_some, contents, Dict.map_insert,
    LoadedService.name_build, LoadedService.content_build, contents]

theorem contents_deleteService (r : Registry) (name : String) :
    (r.deleteService name).contents = r.contents.erase name :=
  Dict.map_erase ..

theorem contents_changeFunctions (r : Registry) (name : String) (functions : FunctionTable) :
    (r.changeFunctions name functions).contents = r.contents := by
  apply Dict.ext_get?
  intro n
  rw [contents, contents, changeFunctions, Dict.get?_map, Dict.get?_map, Dict.get?_map,
    Option.map_map]
  rfl

/-- A service that is not loaded is not changed. -/
theorem contents_changeService {f : LoadedService → LoadedService} {g : Content → Content}
    (h : ∀ s, (f s).content = g s.content) (r : Registry) (name : String) :
    ((r.changeService name f).toOption.getD r).contents = r.contents.modify name g := by
  have hname : r.contents.get? name = (r.services.get? name).map LoadedService.content :=
    Dict.get?_map ..
  rw [changeService, service?, Dict.modify, hname]
  cases r.services.get? name with
  | none => rfl
  | some s =>
    change { r with services := r.services.insert name (f s) }.contents =
      r.contents.insert name (g s.content)
    rw [← h]
    exact Dict.map_insert ..

theorem contents_reload (r : Registry) (snapshot : Snapshot) :
    (r.reload snapshot).contents = snapshot.contents := by
  have key (functions : FunctionTable) (l : List Service) (d : Dict LoadedService) (stamp : Nat) :
      (l.foldl (fun x s => (Dict.insert x.1 s.name (LoadedService.build functions x.2 s), x.2 + 1))
        (d, stamp)).1.map LoadedService.content =
      (l.map fun x => (x.name, x.content)).foldl (fun d e => d.insert e.1 e.2)
        (d.map LoadedService.content) := by
    induction l generalizing d stamp with
    | nil => rfl
    | cons s l ih =>
      rw [List.foldl_cons, List.map_cons, List.foldl_cons, ih, Dict.map_insert,
        LoadedService.content_build]
  exact key _ _ _ _

end Registry
end Turnstile

import Turnstile.Proofs.Function.Calls
import Turnstile.Proofs.Live.Items

/-! What there is in a store, in a registry and in a listing, place by place. -/
namespace Turnstile

/-- A place for a service, for a policy or role policy, or for a custom function. -/
inductive Place where
  | service (name : String)
  | item (i : Item)
  | function (name : String)
deriving DecidableEq

/-- The service that the place is in. -/
def Place.service? : Place → Option String
  | service name => some name
  | item i => some i.service
  | function _ => none

namespace Item

/-- One of the rules of a service stands at the place. -/
def Within (i : Item) (l : LiveService) : Prop :=
  match i with
  | policy _ id => id ∈ l.policies
  | rolePolicy _ id => id ∈ l.rolePolicies

theorem isSome_at? {l : LiveService} {i : Item} : (i.at? l).isSome ↔ i.Within l := by
  cases i with
  | policy _ id => rw [at?, Option.isSome_map, Within, Dict.mem_iff_isSome]
  | rolePolicy _ id => rw [at?, Option.isSome_map, Within, Dict.mem_iff_isSome]

end Item

/-- Services with what they contain, and the names of custom functions. -/
structure Stock where
  contents : Dict Content
  functions : NameSet

namespace Stock

def Has (s : Stock) : Place → Prop
  | .service name => name ∈ s.contents
  | .item i => (i.find? s.contents).isSome
  | .function name => name ∈ s.functions

/-- Something stands in the same places. -/
def Alike (s t : Stock) : Prop := ∀ place, s.Has place ↔ t.Has place

theorem has_item_iff {s : Stock} {i : Item} :
    s.Has (.item i) ↔ ∃ c, s.contents.get? i.service = some c ∧ i.Within c.2 := by
  rw [Has, Item.find?, Option.isSome_bind, Option.any_eq_true]
  simp only [Item.isSome_at?]

/-- Nothing is in a service that is not there. -/
theorem has_service {s : Stock} {x : Place} (h : s.Has x) {name : String} (hx : x.service? = some name) :
    s.Has (.service name) := by
  cases x with
  | service n => exact Option.some.inj hx ▸ h
  | item i =>
    obtain ⟨_, hc, -⟩ := has_item_iff.mp h
    exact Dict.mem_of_get? (Option.some.inj hx ▸ hc)
  | function n => cases hx

end Stock

namespace FunctionTable
variable {t : FunctionTable}

theorem mem_customNames {name : String} : name ∈ t.customNames ↔ ∃ d, Dict.get? t name = some (.custom d) := by
  simp only [customNames, List.mem_filterMap, ← Dict.mem_entries_iff]
  constructor
  · rintro ⟨⟨n, f⟩, hf, hn⟩
    cases f with
    | builtin b => cases hn
    | custom d =>
      obtain rfl := Option.some.inj hn
      exact ⟨d, hf⟩
  · rintro ⟨d, hd⟩
    exact ⟨_, hd, rfl⟩

theorem mem_customNames_withCustom {name n : String} {d : FunctionDefinition} :
    n ∈ (t.withCustom name d).customNames ↔ n = name ∨ n ∈ t.customNames := by
  rw [mem_customNames, mem_customNames, get?_withCustom]
  by_cases hn : n = name
  · simp [hn]
  · simp [hn]

theorem mem_customNames_withoutCustom {name n : String} :
    n ∈ (t.withoutCustom name).customNames ↔ n ≠ name ∧ n ∈ t.customNames := by
  rw [mem_customNames, mem_customNames, withoutCustom]
  split
  · rw [Dict.get?_erase]
    by_cases hn : n = name
    · simp [hn]
    · simp [hn]
  · next hbuiltin =>
    constructor
    · rintro ⟨d, hd⟩
      exact ⟨fun hn => hbuiltin d (hn ▸ hd), d, hd⟩
    · exact fun h => h.2

end FunctionTable

namespace Registry
variable {r : Registry}

def stock (r : Registry) : Stock := ⟨r.contents, .ofList r.functions.customNames⟩

/-- Something is loaded for the place. -/
def Has (r : Registry) : Place → Prop
  | .service name => name ∈ r.serviceNames
  | .item (.policy service id) => (service, id) ∈ r.policyLocations
  | .item (.rolePolicy service id) => (service, id) ∈ r.rolePolicyLocations
  | .function name => name ∈ r.functions.customNames

private theorem mem_locations {d : Dict LoadedService} {f : LoadedService → List String} {service id : String} :
    (service, id) ∈ d.entries.flatMap (fun e => (f e.2).map (e.1, ·)) ↔
      ∃ s, d.get? service = some s ∧ id ∈ f s := by
  simp only [List.mem_flatMap, List.mem_map, Prod.mk.injEq, ← Dict.mem_entries_iff]
  constructor
  · rintro ⟨⟨_, s⟩, hs, _, hid, rfl, rfl⟩
    exact ⟨s, hs, hid⟩
  · rintro ⟨s, hs, hid⟩
    exact ⟨(service, s), hs, id, hid, rfl, rfl⟩

private theorem stock_has_item {i : Item} :
    r.stock.Has (.item i) ↔ ∃ s, r.services.get? i.service = some s ∧ i.Within s.live := by
  rw [Stock.has_item_iff, stock, contents, Dict.get?_map]
  simp only [Option.map_eq_some_iff]
  constructor
  · rintro ⟨_, ⟨s, hs, rfl⟩, hi⟩
    exact ⟨s, hs, hi⟩
  · rintro ⟨s, hs, hi⟩
    exact ⟨s.content, ⟨s, hs, rfl⟩, hi⟩

instance : (x : Place) → Decidable (r.Has x)
  | .service name => inferInstanceAs (Decidable (name ∈ r.serviceNames))
  | .item (.policy service id) => inferInstanceAs (Decidable ((service, id) ∈ r.policyLocations))
  | .item (.rolePolicy service id) => inferInstanceAs (Decidable ((service, id) ∈ r.rolePolicyLocations))
  | .function name => inferInstanceAs (Decidable (name ∈ r.functions.customNames))

theorem has_stock (place : Place) : r.stock.Has place ↔ r.Has place := by
  match place with
  | .service name => exact Dict.mem_map.trans Dict.mem_keys.symm
  | .item (.policy service id) =>
    rw [stock_has_item, Has, policyLocations, mem_locations (f := fun s => s.policies.ids)]
    simp only [RuleCache.ids, Dict.mem_keys]
    rfl
  | .item (.rolePolicy service id) =>
    rw [stock_has_item, Has, rolePolicyLocations, mem_locations (f := fun s => s.rolePolicies.ids)]
    simp only [RuleCache.ids, Dict.mem_keys]
    rfl
  | .function name => exact NameSet.mem_ofList

theorem mem_serviceNames {name : String} : name ∈ r.serviceNames ↔ r.stock.Has (.service name) :=
  (has_stock (.service name)).symm

theorem mem_policyLocations {k : String × String} : k ∈ r.policyLocations ↔ r.stock.Has (.item (.policy k.1 k.2)) :=
  (has_stock (.item (.policy k.1 k.2))).symm

theorem mem_rolePolicyLocations {k : String × String} :
    k ∈ r.rolePolicyLocations ↔ r.stock.Has (.item (.rolePolicy k.1 k.2)) :=
  (has_stock (.item (.rolePolicy k.1 k.2))).symm

theorem mem_customNames {name : String} : name ∈ r.functions.customNames ↔ r.stock.Has (.function name) :=
  (has_stock (.function name)).symm

end Registry
/-- The service has something for the place. -/
def Service.Has (s : Service) : Item → Prop
  | .policy service id => s.name = service ∧ ∃ p ∈ s.policies, p.id = id
  | .rolePolicy service id => s.name = service ∧ ∃ p ∈ s.rolePolicies, p.id = id

instance (s : Service) : (i : Item) → Decidable (s.Has i)
  | .policy service id => inferInstanceAs (Decidable (s.name = service ∧ ∃ p ∈ s.policies, p.id = id))
  | .rolePolicy service id => inferInstanceAs (Decidable (s.name = service ∧ ∃ p ∈ s.rolePolicies, p.id = id))

theorem Service.Has.name_eq {s : Service} {i : Item} (h : s.Has i) : s.name = i.service := by
  cases i with
  | policy _ _ => exact h.1
  | rolePolicy _ _ => exact h.1

theorem Service.within_content {s : Service} {i : Item} (h : s.name = i.service) : i.Within s.content.2 ↔ s.Has i := by
  rw [content, LiveService.ofService_eq]
  cases i with
  | policy service id =>
    simp only [Item.Within, Has, Dict.mem_ofList, List.map_map, List.mem_map, Function.comp_apply]
    exact ⟨fun hi => ⟨h, hi⟩, fun hi => hi.2⟩
  | rolePolicy service id =>
    simp only [Item.Within, Has, Dict.mem_ofList, List.map_map, List.mem_map, Function.comp_apply]
    exact ⟨fun hi => ⟨h, hi⟩, fun hi => hi.2⟩

namespace Snapshot
variable {s : Snapshot}

def stock (s : Snapshot) : Stock := ⟨s.contents, .ofList (s.functions.map (·.name))⟩

/-- Something is in the store for the place. -/
def Has (s : Snapshot) : Place → Prop
  | .service name => ∃ x ∈ s.services, x.name = name
  | .item i => ∃ x ∈ s.services, x.Has i
  | .function name => ∃ d ∈ s.functions, d.name = name

instance : (x : Place) → Decidable (s.Has x)
  | .service name => inferInstanceAs (Decidable (∃ x ∈ s.services, x.name = name))
  | .item i => inferInstanceAs (Decidable (∃ x ∈ s.services, x.Has i))
  | .function name => inferInstanceAs (Decidable (∃ d ∈ s.functions, d.name = name))

theorem get?_contents_iff (hs : s.Distinct) {name : String} {c : Content} :
    s.contents.get? name = some c ↔ ∃ x ∈ s.services, x.name = name ∧ x.content = c := by
  rw [contents, Dict.get?_ofList_iff]
  · simp only [List.mem_map, Prod.mk.injEq]
  · intro c d hc hd
    obtain ⟨x, hx, hxc⟩ := List.mem_map.mp hc
    obtain ⟨y, hy, hyd⟩ := List.mem_map.mp hd
    obtain ⟨hxname, rfl⟩ := Prod.mk.inj hxc
    obtain ⟨hyname, rfl⟩ := Prod.mk.inj hyd
    rw [List.inj_on_of_nodup_map hs hx hy (hxname.trans hyname.symm)]

theorem has_stock (hs : s.Distinct) (place : Place) : s.stock.Has place ↔ s.Has place := by
  cases place with
  | service name =>
    rw [Stock.Has, stock, contents, Dict.mem_ofList, List.map_map, List.mem_map]
    rfl
  | item i =>
    rw [Stock.has_item_iff]
    simp only [stock, get?_contents_iff hs]
    constructor
    · rintro ⟨_, ⟨x, hx, hname, rfl⟩, hi⟩
      exact ⟨x, hx, (Service.within_content hname).mp hi⟩
    · rintro ⟨x, hx, hi⟩
      exact ⟨_, ⟨x, hx, hi.name_eq, rfl⟩, (Service.within_content hi.name_eq).mpr hi⟩
  | function name =>
    rw [Stock.Has, stock, NameSet.mem_ofList, List.mem_map]
    rfl

/-- No identifier of a policy is in use in two services, and none of a role policy. -/
structure Unshared (s : Snapshot) : Prop where
  policies : ∀ x ∈ s.services, ∀ y ∈ s.services, ∀ p ∈ x.policies, ∀ q ∈ y.policies,
    p.id = q.id → x.name = y.name
  rolePolicies : ∀ x ∈ s.services, ∀ y ∈ s.services, ∀ p ∈ x.rolePolicies, ∀ q ∈ y.rolePolicies,
    p.id = q.id → x.name = y.name

end Snapshot

namespace Listing

/-- The place is listed. -/
def Has (l : Listing) : Place → Prop
  | .service name => name ∈ l.services
  | .item (.policy service id) => l.policies.get? id = some service
  | .item (.rolePolicy service id) => l.rolePolicies.get? id = some service
  | .function name => name ∈ l.functions

private theorem foldl_insert {α : Type} {f : α → String} {name : String} {l : List α} {m : List (String × String)} :
    l.foldl (fun d a => d.insert (f a) name) (Dict.ofList m) = .ofList (m ++ l.map fun a => (f a, name)) := by
  rw [Dict.ofList, Dict.ofList, List.foldl_append, List.foldl_map]

theorem ofSnapshot_eq (s : Snapshot) : ofSnapshot s = {
    services := s.services.map (·.name)
    policies := .ofList (s.services.flatMap fun x => x.policies.map fun p => (p.id, x.name))
    rolePolicies := .ofList (s.services.flatMap fun x => x.rolePolicies.map fun p => (p.id, x.name))
    functions := s.functions.map (·.name) } := by
  obtain ⟨functions, services⟩ := s
  rw [ofSnapshot]
  dsimp only
  induction services using List.reverseRecOn with
  | nil => rfl
  | append_singleton services x ih =>
    rw [List.foldl_append, ih, List.foldl_cons, List.foldl_nil, addService, foldl_insert, foldl_insert]
    simp only [List.map_append, List.map_singleton, List.flatMap_append, List.flatMap_singleton]

private theorem get?_ofList_flatMap {α : Type} {items : Service → List α} {f : α → String} {services : List Service}
    (h : ∀ x ∈ services, ∀ y ∈ services, ∀ p ∈ items x, ∀ q ∈ items y, f p = f q → x.name = y.name)
    {service id : String} :
    (Dict.ofList (services.flatMap fun x => (items x).map fun p => (f p, x.name))).get? id = some service ↔
      ∃ x ∈ services, x.name = service ∧ ∃ p ∈ items x, f p = id := by
  have hmem (name : String) : (id, name) ∈ services.flatMap (fun x => (items x).map fun p => (f p, x.name)) ↔
      ∃ x ∈ services, x.name = name ∧ ∃ p ∈ items x, f p = id := by
    simp only [List.mem_flatMap, List.mem_map, Prod.mk.injEq]
    constructor
    · rintro ⟨x, hx, p, hp, hid, hname⟩
      exact ⟨x, hx, hname, p, hp, hid⟩
    · rintro ⟨x, hx, hname, p, hp, hid⟩
      exact ⟨x, hx, p, hp, hid, hname⟩
  rw [Dict.get?_ofList_iff, hmem]
  intro v w hv hw
  obtain ⟨x, hx, rfl, p, hp, hpid⟩ := (hmem v).mp hv
  obtain ⟨y, hy, rfl, q, hq, hqid⟩ := (hmem w).mp hw
  exact h x hx y hy p hp q hq (hpid.trans hqid.symm)

/-- A listing is complete, unless services share identifiers. -/
theorem has_ofSnapshot {s : Snapshot} (h : s.Unshared) (place : Place) : (ofSnapshot s).Has place ↔ s.Has place := by
  rw [ofSnapshot_eq]
  match place with
  | .service name => exact List.mem_map
  | .item (.policy service id) => exact get?_ofList_flatMap h.policies
  | .item (.rolePolicy service id) => exact get?_ofList_flatMap h.rolePolicies
  | .function name => exact List.mem_map

/-- What is listed has its service listed. -/
def Closed (l : Listing) : Prop := ∀ i, l.Has (.item i) → l.Has (.service i.service)

theorem closed_ofSnapshot {s : Snapshot} (h : s.Unshared) : (ofSnapshot s).Closed := by
  intro i hi
  obtain ⟨x, hx, hxi⟩ := (has_ofSnapshot h _).mp hi
  exact (has_ofSnapshot h _).mpr ⟨x, hx, hxi.name_eq⟩

end Listing
end Turnstile

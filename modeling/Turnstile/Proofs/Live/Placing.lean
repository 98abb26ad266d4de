import Turnstile.Proofs.Live.Loading
import Turnstile.Proofs.Live.Stock

/-! What is found in a store that has something, and what single changes of a registry do to its stock. -/
namespace Turnstile

namespace Snapshot
variable {s : Snapshot} {service id name : String}

private theorem find?_of_exists {α : Type} {key : α → String} {l : List α} {k : String} (h : ∃ a ∈ l, key a = k) :
    ∃ a ∈ l, l.find? (key · = k) = some a ∧ key a = k := by
  obtain ⟨a, ha, hk⟩ := h
  cases hfound : l.find? (key · = k) with
  | none => exact absurd (decide_eq_true hk) (List.find?_eq_none.mp hfound a ha)
  | some b => exact ⟨b, List.mem_of_find?_eq_some hfound, rfl, by simpa using List.find?_some hfound⟩

theorem service_of_has (h : s.Has (.service name)) : ∃ x ∈ s.services, s.service name = .ok x ∧ x.name = name := by
  obtain ⟨x, hx, hfound, hname⟩ := find?_of_exists h
  exact ⟨x, hx, by rw [Snapshot.service, hfound], hname⟩

/-- The service that is found is the one that has the item. -/
private theorem service_of_has_item (hs : s.Distinct) {i : Item} (h : s.Has (.item i)) :
    ∃ x, s.service i.service = .ok x ∧ x.Has i := by
  obtain ⟨y, hy, hyi⟩ := h
  obtain ⟨x, hx, hfound, hxname⟩ := service_of_has (s := s) ⟨y, hy, hyi.name_eq⟩
  rw [List.inj_on_of_nodup_map hs hx hy (hxname.trans hyi.name_eq.symm)] at hfound
  exact ⟨y, hfound, hyi⟩

theorem policy_of_has (hs : s.Distinct) (h : s.Has (.item (.policy service id))) :
    ∃ p, s.policy service id = .ok p ∧ p.id = id := by
  obtain ⟨x, hx, -, hp⟩ := service_of_has_item hs h
  obtain ⟨p, -, hfound, hid⟩ := find?_of_exists hp
  refine ⟨p, ?_, hid⟩
  rw [Snapshot.policy, show s.service service = pure x from hx, pure_bind, hfound]

theorem rolePolicy_of_has (hs : s.Distinct) (h : s.Has (.item (.rolePolicy service id))) :
    ∃ p, s.rolePolicy service id = .ok p ∧ p.id = id := by
  obtain ⟨x, hx, -, hp⟩ := service_of_has_item hs h
  obtain ⟨p, -, hfound, hid⟩ := find?_of_exists hp
  refine ⟨p, ?_, hid⟩
  rw [Snapshot.rolePolicy, show s.service service = pure x from hx, pure_bind, hfound]

theorem function_of_has (h : s.Has (.function name)) : ∃ d, s.function name = .ok d ∧ d.name = name := by
  obtain ⟨d, -, hfound, hname⟩ := find?_of_exists h
  exact ⟨d, by rw [Snapshot.function, hfound], hname⟩

end Snapshot

namespace Stock

theorem has_congr {s t : Stock} {name : String} (h : s.contents.get? name = t.contents.get? name) {x : Place}
    (hx : x.service? = some name) : s.Has x ↔ t.Has x := by
  cases x with
  | service n =>
    obtain rfl := Option.some.inj hx
    rw [Has, Has, Dict.mem_iff_isSome, Dict.mem_iff_isSome, h]
  | item i =>
    obtain rfl := Option.some.inj hx
    rw [has_item_iff, has_item_iff, h]
  | function n => cases hx

/-- Places of other services do not matter to a place. -/
theorem has_of_ne {s : Stock} {contents : Dict Content} {x : Place}
    (h : ∀ name, x.service? = some name → contents.get? name = s.contents.get? name) :
    Stock.Has { s with contents } x ↔ s.Has x := by
  cases hx : x.service? with
  | none =>
    cases x with
    | function n => rfl
    | service n => cases hx
    | item i => cases hx
  | some name => exact has_congr (h name hx) hx

theorem has_erase {s : Stock} {name : String} {x : Place} :
    Stock.Has { s with contents := s.contents.erase name } x ↔ s.Has x ∧ x.service? ≠ some name := by
  by_cases hx : x.service? = some name
  · have hgone : (s.contents.erase name).get? name = (Dict.empty : Dict Content).get? name := by
      rw [Dict.get?_erase, if_pos rfl, Dict.get?_empty]
    rw [has_congr (t := { s with contents := .empty }) hgone hx]
    constructor
    · intro h
      cases x with
      | service n => exact absurd h (Dict.not_mem_empty n)
      | item i =>
        obtain ⟨_, hc, -⟩ := has_item_iff.mp h
        cases hc
      | function n => cases hx
    · exact fun h => absurd hx h.2
  · have hsame (n : String) (hn : x.service? = some n) : (s.contents.erase name).get? n = s.contents.get? n := by
      have hne : n ≠ name := fun hname => hx (hname ▸ hn)
      rw [Dict.get?_erase, if_neg hne]
    rw [has_of_ne hsame]
    exact ⟨fun h => ⟨h, hx⟩, fun h => h.1⟩

end Stock

/-- One item is set, and what stands elsewhere is left. -/
theorem Edit.Sets.has_modify {e : Edit} {item : Item} {value : Option (Policy ⊕ RolePolicy)} {f : Content → Content}
    (h : e.Sets item value f) {s : Stock} (hs : s.Has (.service item.service)) {x : Place} :
    Stock.Has { s with contents := s.contents.modify item.service f } x ↔
      if x = .item item then value.isSome = true else s.Has x := by
  rw [← h.update]
  cases x with
  | service name =>
    have hkinds := congrArg Option.isSome (h.map_update s.contents name)
    rw [Option.isSome_map, Option.isSome_map] at hkinds
    rw [if_neg (by simp), Stock.Has, Stock.Has, Dict.mem_iff_isSome, Dict.mem_iff_isSome, hkinds]
  | item i =>
    by_cases hi : i.service ∈ s.contents
    · rw [Stock.Has, h.find?_update hi]
      by_cases hsame : item = i
      · rw [if_pos hsame, if_pos (congrArg Place.item hsame.symm)]
      · rw [if_neg hsame, if_neg fun hx => hsame (Place.item.inj hx).symm]
        rfl
    · have hne : i.service ≠ item.service := fun hservice => hi (hservice ▸ hs)
      rw [if_neg fun hx => hne (congrArg Item.service (Place.item.inj hx)), Stock.has_of_ne]
      intro name hname
      obtain rfl := Option.some.inj hname
      rw [h.update, Dict.get?_modify, if_neg hne]
  | function name =>
    rw [if_neg (by simp)]
    rfl

theorem Edit.Sets.has_added {e : Edit} {item : Item} {value : Policy ⊕ RolePolicy} {f : Content → Content}
    (h : e.Sets item (some value) f) {s : Stock} (hs : s.Has (.service item.service)) {x : Place} :
    Stock.Has { s with contents := s.contents.modify item.service f } x ↔ s.Has x ∨ x = .item item := by
  rw [h.has_modify hs]
  by_cases hx : x = .item item
  · simp [hx]
  · simp [hx]

theorem Edit.Sets.has_removed {e : Edit} {item : Item} {f : Content → Content} (h : e.Sets item none f) {s : Stock}
    (hs : s.Has (.service item.service)) {x : Place} :
    Stock.Has { s with contents := s.contents.modify item.service f } x ↔ s.Has x ∧ x ≠ .item item := by
  rw [h.has_modify hs]
  by_cases hx : x = .item item
  · simp [hx]
  · simp [hx]

namespace Registry
variable {r : Registry}

theorem stock_addService (r : Registry) (s : Service) : (r.addService s).stock =
    { r.stock with contents := r.contents.insert s.name s.content } := by
  have hfunctions : (r.addService s).functions = r.functions := by
    rw [addService, insertBuilt?, if_pos rfl]
    rfl
  rw [stock, contents_addService, hfunctions, stock]

/-- A service that is fetched from a store brings all that it has there. -/
theorem has_addService {snapshot : Snapshot} (hsnapshot : snapshot.Distinct) {s : Service} (hs : s ∈ snapshot.services)
    {x : Place} : (r.addService s).stock.Has x ↔
      if x.service? = some s.name then snapshot.Has x else r.stock.Has x := by
  rw [stock_addService]
  split
  · next hx =>
    rw [← Snapshot.has_stock hsnapshot]
    apply Stock.has_congr _ hx
    rw [Dict.get?_insert, if_pos rfl, eq_comm]
    exact (Snapshot.get?_contents_iff hsnapshot).mpr ⟨s, hs, rfl, rfl⟩
  · next hx =>
    apply Stock.has_of_ne
    intro name hname
    have hne : name ≠ s.name := fun h => hx (h ▸ hname)
    rw [Dict.get?_insert, if_neg hne]
    rfl

theorem stock_deleteService (r : Registry) (name : String) : (r.deleteService name).stock =
    { r.stock with contents := r.contents.erase name } := by
  rw [stock, contents_deleteService]
  rfl

theorem has_deleteService {name : String} {x : Place} :
    (r.deleteService name).stock.Has x ↔ r.stock.Has x ∧ x.service? ≠ some name := by
  rw [stock_deleteService]
  exact Stock.has_erase (s := r.stock)

theorem stock_functions_changeService (r : Registry) (name : String) (f : LoadedService → LoadedService) :
    ((r.changeService name f).toOption.getD r).stock.functions = r.stock.functions := by
  rw [changeService]
  cases r.service? name with
  | none => rfl
  | some s => rfl

/-- A change of a service that is loaded succeeds. -/
theorem changeService_of_has {name : String} (h : r.stock.Has (.service name)) {f : LoadedService → LoadedService}
    {g : Content → Content} (hfg : ∀ s, (f s).content = g s.content) : ∃ r', r.changeService name f = .ok r' ∧
      r'.stock = { r.stock with contents := r.contents.modify name g } := by
  have hcontents := contents_changeService hfg r name
  obtain ⟨s, hs⟩ := Dict.mem_iff.mp (Dict.mem_map.mp h)
  have hservice : r.service? name = some s := hs
  rw [changeService, hservice] at hcontents ⊢
  refine ⟨_, rfl, ?_⟩
  rw [← hcontents]
  rfl

theorem stock_addFunction (r : Registry) (d : FunctionDefinition) :
    (r.addFunction d).stock = { r.stock with functions := r.stock.functions.add d.name } := by
  rw [addFunction, stock, contents_changeFunctions]
  refine congrArg (Stock.mk _) (NameSet.ext_mem fun name => ?_)
  rw [NameSet.mem_ofList, NameSet.mem_add, stock, NameSet.mem_ofList]
  exact FunctionTable.mem_customNames_withCustom

theorem has_addFunction {d : FunctionDefinition} {x : Place} :
    (r.addFunction d).stock.Has x ↔ r.stock.Has x ∨ x = .function d.name := by
  rw [stock_addFunction]
  cases x with
  | service name => simp only [Stock.Has, reduceCtorEq, or_false]
  | item i => simp only [Stock.Has, reduceCtorEq, or_false]
  | function name => simp only [Stock.Has, NameSet.mem_add, Place.function.injEq, or_comm]

theorem stock_deleteFunction (r : Registry) (name : String) :
    (r.deleteFunction name).stock = { r.stock with functions := Dict.erase r.stock.functions name } := by
  rw [deleteFunction, stock, contents_changeFunctions]
  refine congrArg (Stock.mk _) (NameSet.ext_mem fun n => ?_)
  rw [NameSet.mem_ofList, Dict.mem_erase, stock, NameSet.mem_ofList]
  exact FunctionTable.mem_customNames_withoutCustom

theorem has_deleteFunction {name : String} {x : Place} :
    (r.deleteFunction name).stock.Has x ↔ r.stock.Has x ∧ x ≠ .function name := by
  rw [stock_deleteFunction]
  cases x with
  | service n => simp only [Stock.Has, ne_eq, reduceCtorEq, not_false_eq_true, and_true]
  | item i => simp only [Stock.Has, ne_eq, reduceCtorEq, not_false_eq_true, and_true]
  | function n => simp only [Stock.Has, Dict.mem_erase, ne_eq, Place.function.injEq, and_comm]

end Registry

end Turnstile

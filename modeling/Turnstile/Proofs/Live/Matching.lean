import Turnstile.Proofs.Live.Placing
import Turnstile.Store.Memory

/-! Comparing what is loaded with a listing. As long as the store has what is to be fetched, all that is listed is
loaded in the end, and nothing else. -/
namespace Turnstile

namespace Loading
variable {r : Registry}

theorem attempt_of_ok {f : Registry → Except Error Registry} {r' : Registry} (h : f r = .ok r') :
    attempt f r = (.ok (), r') := by
  rw [attempt, h]

/-- The loading succeeds, and leaves something in just these places. -/
def Leaves (l : Loading Unit) (r : Registry) (places : Place → Prop) : Prop :=
  ∃ r', l r = (.ok (), r') ∧ ∀ x, r'.stock.Has x ↔ places x

section Items
variable {service : String} (h : r.stock.Has (.service service))
include h

theorem leaves_addPolicy (p : Policy) :
    Leaves (addPolicy service p) r fun x => r.stock.Has x ∨ x = .item (.policy service p.id) := by
  obtain ⟨r', hr', hstock⟩ := Registry.changeService_of_has h (LoadedService.content_addPolicy r.functions p)
  refine ⟨r', attempt_of_ok hr', fun x => ?_⟩
  rw [hstock]
  exact (Edit.sets_createPolicy service p).has_added (s := r.stock) h

theorem leaves_deletePolicy (id : String) :
    Leaves (deletePolicy service id) r fun x => r.stock.Has x ∧ x ≠ .item (.policy service id) := by
  obtain ⟨r', hr', hstock⟩ := Registry.changeService_of_has h fun s => s.content_removePolicy id
  refine ⟨r', attempt_of_ok hr', fun x => ?_⟩
  rw [hstock]
  exact (Edit.sets_deletePolicy service id).has_removed (s := r.stock) h

theorem leaves_addRolePolicy (p : RolePolicy) :
    Leaves (addRolePolicy service p) r fun x => r.stock.Has x ∨ x = .item (.rolePolicy service p.id) := by
  obtain ⟨r', hr', hstock⟩ := Registry.changeService_of_has h (LoadedService.content_addRolePolicy r.functions p)
  refine ⟨r', attempt_of_ok hr', fun x => ?_⟩
  rw [hstock]
  exact (Edit.sets_createRolePolicy service p).has_added (s := r.stock) h

theorem leaves_deleteRolePolicy (id : String) :
    Leaves (deleteRolePolicy service id) r fun x => r.stock.Has x ∧ x ≠ .item (.rolePolicy service id) := by
  obtain ⟨r', hr', hstock⟩ := Registry.changeService_of_has h fun s => s.content_removeRolePolicy id
  refine ⟨r', attempt_of_ok hr', fun x => ?_⟩
  rw [hstock]
  exact (Edit.sets_deleteRolePolicy service id).has_removed (s := r.stock) h

end Items

theorem Leaves.congr {l : Loading Unit} {p q : Place → Prop} (h : Leaves l r p) (hpq : ∀ x, p x ↔ q x) :
    Leaves l r q := by
  obtain ⟨r', hrun, hr'⟩ := h
  exact ⟨r', hrun, fun x => (hr' x).trans (hpq x)⟩

theorem Leaves.bind {l m : Loading Unit} {p q : Place → Prop} (h : Leaves l r p)
    (hm : ∀ r', (∀ x, r'.stock.Has x ↔ p x) → Leaves m r' q) : Leaves (l >>= fun _ => m) r q := by
  obtain ⟨r', hrun, hr'⟩ := h
  obtain ⟨r'', hrun', hr''⟩ := hm r' hr'
  exact ⟨r'', (bind_run hrun).trans hrun', hr''⟩

theorem Leaves.get {m : Registry → Loading Unit} {p : Place → Prop} (h : Leaves (m r) r p) :
    Leaves (MonadState.get >>= m) r p := h

theorem Leaves.fetch {β : Type} {a : Except Error β} {b : β} (ha : a = .ok b) {m : β → Loading Unit}
    {p : Place → Prop} (h : Leaves (m b) r p) : Leaves ((liftM a : Loading β) >>= m) r p := by
  rw [ha]
  exact h

theorem Leaves.check {services : List String} {service id : String} (hservice : service ∈ services)
    {m : Loading Unit} {p : Place → Prop} (h : Leaves m r p) :
    Leaves (checkService services service id >>= fun _ => m) r p := by
  rw [checkService, if_pos hservice, pure_bind]
  exact h

/-- What is left after some of the items is carried on item by item. -/
theorem leaves_forM {β : Type} {f : β → Loading Unit} {l : List β} {P : List β → Place → Prop}
    (h : ∀ done, ∀ b ∈ l, ∀ r, (∀ x, r.stock.Has x ↔ P done x) → Leaves (f b) r (P (done ++ [b])))
    (hr : ∀ x, r.stock.Has x ↔ P [] x) : Leaves (l.forM f) r (P l) := by
  have key (rest done : List β) (hrest : ∀ b ∈ rest, b ∈ l) (r : Registry) (hr : ∀ x, r.stock.Has x ↔ P done x) :
      Leaves (rest.forM f) r (P (done ++ rest)) := by
    induction rest generalizing done r with
    | nil =>
      rw [List.append_nil]
      exact ⟨r, rfl, hr⟩
    | cons b rest ih =>
      rw [List.append_cons]
      change Leaves (f b >>= fun _ => rest.forM f) r _
      apply (h done b (hrest b List.mem_cons_self) r hr).bind
      exact ih (done ++ [b]) fun a ha => hrest a (List.mem_cons_of_mem b ha)
  exact key l [] (fun _ hb => hb) r hr

section Comparison
variable {κ : Type} {place : κ → Place} {needed : Place → Prop}

/-- Nothing else changes when things are added to what they need. -/
theorem leaves_forM_add {add : κ → Loading Unit} {l : List κ}
    (hadd : ∀ k ∈ l, ∀ r : Registry, (∀ x, needed x → r.stock.Has x) →
      Leaves (add k) r fun x => r.stock.Has x ∨ x = place k)
    (hneeded : ∀ x, needed x → r.stock.Has x) :
    Leaves (l.forM add) r fun x => r.stock.Has x ∨ ∃ k ∈ l, x = place k := by
  apply leaves_forM (P := fun done x => r.stock.Has x ∨ ∃ k ∈ done, x = place k)
  · intro done k hk r' hr'
    apply (hadd k hk r' fun x hx => (hr' x).mpr (.inl (hneeded x hx))).congr
    intro x
    rw [hr']
    simp only [List.mem_append, List.mem_singleton, or_and_right, exists_or, exists_eq_left, or_assoc]
  · simp

/-- Nothing else changes when things are dropped that are not needed. -/
theorem leaves_forM_drop {drop : κ → Loading Unit} {l : List κ}
    (hdrop : ∀ k ∈ l, ∀ r : Registry, (∀ x, needed x → r.stock.Has x) →
      Leaves (drop k) r fun x => r.stock.Has x ∧ x ≠ place k)
    (hneeded : ∀ x, needed x → r.stock.Has x) (hother : ∀ x, needed x → ∀ k, x ≠ place k) :
    Leaves (l.forM drop) r fun x => r.stock.Has x ∧ ∀ k ∈ l, x ≠ place k := by
  apply leaves_forM (P := fun done x => r.stock.Has x ∧ ∀ k ∈ done, x ≠ place k)
  · intro done k hk r' hr'
    have hkept : ∀ x, needed x → r'.stock.Has x := fun x hx => (hr' x).mpr ⟨hneeded x hx, fun k _ => hother x hx k⟩
    apply (hdrop k hk r' hkept).congr
    intro x
    rw [hr', and_assoc, List.forall_mem_append, List.forall_mem_singleton]
  · simp

/-- Adding what is listed and not loaded, and dropping what is loaded and not listed, leaves what is listed. -/
theorem has_compared [BEq κ] [LawfulBEq κ] (hplace : Function.Injective place) {listed loaded : List κ}
    (hloaded : ∀ k, k ∈ loaded ↔ r.stock.Has (place k)) (x : Place) :
    ((r.stock.Has x ∨ ∃ k ∈ listed.filter (· ∉ loaded), x = place k) ∧
        ∀ k ∈ loaded.filter (· ∉ listed), x ≠ place k) ↔
      (∃ k ∈ listed, x = place k) ∨ r.stock.Has x ∧ ∀ k, x ≠ place k := by
  by_cases hx : ∃ k, x = place k
  · obtain ⟨k, rfl⟩ := hx
    have hmem (l : List κ) : (∃ j ∈ l, place k = place j) ↔ k ∈ l := by
      simp only [hplace.eq_iff, exists_eq_right']
    have hself : ¬ ∀ j, place k ≠ place j := fun h => h k rfl
    have hnone (l : List κ) : (∀ j ∈ l, place k ≠ place j) ↔ k ∉ l := by
      rw [← hmem]
      push Not
      rfl
    rw [← hloaded, hmem, hmem, hnone, iff_false_intro hself, and_false, or_false, List.mem_filter, List.mem_filter,
      decide_eq_true_iff, decide_eq_true_iff]
    grind
  · have hnone : ∀ k, x ≠ place k := fun k hk => hx ⟨k, hk⟩
    simp only [hnone, and_false, exists_false, or_false, false_or, not_false_eq_true, implies_true, and_true, ne_eq]

/-- What is listed and not loaded is added, and what is loaded and not listed is dropped. -/
theorem leaves_compare [BEq κ] [LawfulBEq κ] (needed : Place → Prop) (hplace : Function.Injective place)
    {add drop : κ → Loading Unit}
    {listed loaded : List κ} (hloaded : ∀ k, k ∈ loaded ↔ r.stock.Has (place k))
    (hadd : ∀ k ∈ listed, k ∉ loaded → ∀ r : Registry, (∀ x, needed x → r.stock.Has x) →
      Leaves (add k) r fun x => r.stock.Has x ∨ x = place k)
    (hdrop : ∀ k ∈ loaded, ∀ r : Registry, (∀ x, needed x → r.stock.Has x) →
      Leaves (drop k) r fun x => r.stock.Has x ∧ x ≠ place k)
    (hneeded : ∀ x, needed x → r.stock.Has x) (hother : ∀ x, needed x → ∀ k, x ≠ place k) :
    Leaves ((listed.filter (· ∉ loaded)).forM add >>= fun _ => (loaded.filter (· ∉ listed)).forM drop) r fun x =>
      (∃ k ∈ listed, x = place k) ∨ r.stock.Has x ∧ ∀ k, x ≠ place k := by
  have hnew (k : κ) (hk : k ∈ listed.filter (· ∉ loaded)) := hadd k (List.mem_filter.mp hk).1
    (of_decide_eq_true (List.mem_filter.mp hk).2)
  apply (leaves_forM_add hnew hneeded).bind
  intro r' hr'
  have hkept : ∀ x, needed x → r'.stock.Has x := fun x hx => (hr' x).mpr (.inl (hneeded x hx))
  apply (leaves_forM_drop (fun k hk => hdrop k (List.mem_filter.mp hk).1) hkept hother).congr
  intro x
  rw [hr', has_compared hplace hloaded]

/-- Items are compared once their services are right. -/
theorem leaves_compareItems {make : String × String → Item} (hmake : Function.Injective make)
    {services : List String} {listed loaded : List (String × String)}
    (hservices : ∀ name, name ∈ services ↔ r.stock.Has (.service name)) (hlisted : ∀ k ∈ listed, k.1 ∈ services)
    (hservice : ∀ k, (make k).service = k.1) (hloaded : ∀ k, k ∈ loaded ↔ r.stock.Has (.item (make k)))
    {add drop : String × String → Loading Unit}
    (hadd : ∀ k ∈ listed, k ∉ loaded → ∀ r : Registry, r.stock.Has (.service k.1) →
      Leaves (add k) r fun x => r.stock.Has x ∨ x = .item (make k))
    (hdrop : ∀ k, ∀ r : Registry, r.stock.Has (.service k.1) →
      Leaves (drop k) r fun x => r.stock.Has x ∧ x ≠ .item (make k)) :
    Leaves ((listed.filter (· ∉ loaded)).forM add >>= fun _ => (loaded.filter (· ∉ listed)).forM drop) r fun x =>
      (∃ k ∈ listed, x = .item (make k)) ∨ r.stock.Has x ∧ ∀ k, x ≠ .item (make k) := by
  have hplace : Function.Injective fun k => Place.item (make k) := fun k j h => hmake (Place.item.inj h)
  apply leaves_compare (fun x => ∃ name ∈ services, x = .service name) hplace hloaded
  · intro k hk hnew r' hr'
    exact hadd k hk hnew r' (hr' _ ⟨k.1, hlisted k hk, rfl⟩)
  · intro k hk r' hr'
    have hpresent : r.stock.Has (.service k.1) := Stock.has_service ((hloaded k).mp hk) (congrArg some (hservice k))
    exact hdrop k r' (hr' _ ⟨k.1, (hservices k.1).mpr hpresent, rfl⟩)
  · rintro x ⟨name, hname, rfl⟩
    exact (hservices name).mp hname
  · rintro x ⟨name, hname, rfl⟩ k
    nofun

end Comparison

theorem leaves_addService {snapshot : Snapshot} (hsnapshot : snapshot.Distinct) {s : Service}
    (hs : s ∈ snapshot.services) :
    Leaves (addService s) r fun x => if x.service? = some s.name then snapshot.Has x else r.stock.Has x :=
  ⟨r.addService s, rfl, fun _ => Registry.has_addService hsnapshot hs⟩

theorem leaves_deleteService (name : String) :
    Leaves (deleteService name) r fun x => r.stock.Has x ∧ x.service? ≠ some name :=
  ⟨r.deleteService name, rfl, fun _ => Registry.has_deleteService⟩

theorem leaves_addFunction (d : FunctionDefinition) :
    Leaves (addFunction d) r fun x => r.stock.Has x ∨ x = .function d.name :=
  ⟨r.addFunction d, rfl, fun _ => Registry.has_addFunction⟩

theorem leaves_deleteFunction (name : String) :
    Leaves (deleteFunction name) r fun x => r.stock.Has x ∧ x ≠ .function name :=
  ⟨r.deleteFunction name, rfl, fun _ => Registry.has_deleteFunction⟩

section Matching
variable {store : MemoryStore}

/-- A service that is new comes with all that the store has in it. -/
theorem leaves_matchServices (hstore : store.snapshot.Distinct) {listed : List String}
    (hstored : ∀ name ∈ listed, ¬ r.stock.Has (.service name) → store.snapshot.Has (.service name)) :
    Leaves (matchServices store listed) r fun x =>
      match x.service? with
      | some name => name ∈ listed ∧ (r.stock.Has x ∨ ¬ r.stock.Has (.service name) ∧ store.snapshot.Has x)
      | none => r.stock.Has x := by
  let missing := listed.filter (· ∉ r.serviceNames)
  let surplus := r.serviceNames.filter (· ∉ listed)
  have hmissing (name : String) : name ∈ missing ↔ name ∈ listed ∧ ¬ r.stock.Has (.service name) := by
    rw [List.mem_filter, decide_eq_true_iff, Registry.mem_serviceNames]
  have hsurplus (name : String) : name ∈ surplus ↔ r.stock.Has (.service name) ∧ name ∉ listed := by
    rw [List.mem_filter, decide_eq_true_iff, Registry.mem_serviceNames]
  have hadded : Leaves (missing.forM fun name => do addService (← PolicyStore.service store name)) r fun x =>
      r.stock.Has x ∨ ∃ name ∈ missing, x.service? = some name ∧ store.snapshot.Has x := by
    apply leaves_forM (P := fun done x => r.stock.Has x ∨
      ∃ name ∈ done, x.service? = some name ∧ store.snapshot.Has x)
    · intro done name hname r' hr'
      obtain ⟨hlisted, hnew⟩ := (hmissing name).mp hname
      obtain ⟨s, hs, hfetch, rfl⟩ := Snapshot.service_of_has (hstored name hlisted hnew)
      apply Leaves.fetch hfetch
      apply (leaves_addService hstore hs).congr
      intro x
      simp only [List.mem_append, List.mem_singleton, or_and_right, exists_or, exists_eq_left, hr']
      split
      · next hx =>
        have hfresh : ¬ r.stock.Has x := fun h => hnew (Stock.has_service h hx)
        simp only [hfresh, hx, true_and, false_or]
        exact ⟨.inr, fun h => h.elim (fun hbefore => hbefore.choose_spec.2.2) id⟩
      · next hx => simp only [hx, false_and, or_false]
    · simp
  rw [matchServices]
  apply Leaves.get
  apply hadded.bind
  intro r' hr'
  have hdropped : Leaves (surplus.forM deleteService) r' fun x =>
      r'.stock.Has x ∧ ∀ name ∈ surplus, x.service? ≠ some name := by
    apply leaves_forM (P := fun done x => r'.stock.Has x ∧ ∀ name ∈ done, x.service? ≠ some name)
    · intro done name _ r'' hr''
      apply (leaves_deleteService name).congr
      intro x
      rw [hr'', and_assoc, List.forall_mem_append, List.forall_mem_singleton]
    · simp
  apply hdropped.congr
  intro x
  rw [hr']
  cases hx : x.service? with
  | none => simp
  | some name =>
    have hpresent : r.stock.Has x → r.stock.Has (.service name) := fun h => Stock.has_service h hx
    have hone : (∃ n ∈ missing, some name = some n ∧ store.snapshot.Has x) ↔
        name ∈ missing ∧ store.snapshot.Has x := by
      constructor
      · rintro ⟨n, hn, hname, h⟩
        exact ⟨Option.some.inj hname ▸ hn, h⟩
      · rintro ⟨hn, h⟩
        exact ⟨name, hn, rfl, h⟩
    have hkept : (∀ n ∈ surplus, some name ≠ some n) ↔ name ∉ surplus := by
      constructor
      · exact fun h hname => h name hname rfl
      · exact fun h n hn hname => h (Option.some.inj hname ▸ hn)
    rw [hone, hkept, hmissing, hsurplus]
    dsimp only
    grind

theorem policy_injective : Function.Injective fun k : String × String => Item.policy k.1 k.2 :=
  fun _ _ h => Prod.ext (Item.policy.inj h).1 (Item.policy.inj h).2

theorem rolePolicy_injective : Function.Injective fun k : String × String => Item.rolePolicy k.1 k.2 :=
  fun _ _ h => Prod.ext (Item.rolePolicy.inj h).1 (Item.rolePolicy.inj h).2

theorem leaves_matchPolicies (hstore : store.snapshot.Distinct) {services : List String}
    {listed : List (String × String)} (hservices : ∀ name, name ∈ services ↔ r.stock.Has (.service name))
    (hlisted : ∀ k ∈ listed, k.1 ∈ services)
    (hstored : ∀ k ∈ listed, ¬ r.stock.Has (.item (.policy k.1 k.2)) →
      store.snapshot.Has (.item (.policy k.1 k.2))) :
    Leaves (matchPolicies store services listed) r fun x => (∃ k ∈ listed, x = .item (.policy k.1 k.2)) ∨
      r.stock.Has x ∧ ∀ k : String × String, x ≠ .item (.policy k.1 k.2) := by
  rw [matchPolicies]
  apply Leaves.get
  dsimp only
  apply leaves_compareItems policy_injective hservices hlisted (fun _ => rfl) fun _ => Registry.mem_policyLocations
  · rintro ⟨service, id⟩ hk hnew r' hr'
    obtain ⟨p, hp, rfl⟩ := Snapshot.policy_of_has hstore
      (hstored _ hk fun h => hnew (Registry.mem_policyLocations.mpr h))
    apply Leaves.check (hlisted _ hk)
    apply Leaves.fetch hp
    exact leaves_addPolicy hr' p
  · rintro ⟨service, id⟩ r' hr'
    exact leaves_deletePolicy hr' id

theorem leaves_matchRolePolicies (hstore : store.snapshot.Distinct) {services : List String}
    {listed : List (String × String)} (hservices : ∀ name, name ∈ services ↔ r.stock.Has (.service name))
    (hlisted : ∀ k ∈ listed, k.1 ∈ services)
    (hstored : ∀ k ∈ listed, ¬ r.stock.Has (.item (.rolePolicy k.1 k.2)) →
      store.snapshot.Has (.item (.rolePolicy k.1 k.2))) :
    Leaves (matchRolePolicies store services listed) r fun x => (∃ k ∈ listed, x = .item (.rolePolicy k.1 k.2)) ∨
      r.stock.Has x ∧ ∀ k : String × String, x ≠ .item (.rolePolicy k.1 k.2) := by
  rw [matchRolePolicies]
  apply Leaves.get
  dsimp only
  apply leaves_compareItems rolePolicy_injective hservices hlisted (fun _ => rfl)
    fun _ => Registry.mem_rolePolicyLocations
  · rintro ⟨service, id⟩ hk hnew r' hr'
    obtain ⟨p, hp, rfl⟩ := Snapshot.rolePolicy_of_has hstore
      (hstored _ hk fun h => hnew (Registry.mem_rolePolicyLocations.mpr h))
    apply Leaves.check (hlisted _ hk)
    apply Leaves.fetch hp
    exact leaves_addRolePolicy hr' p
  · rintro ⟨service, id⟩ r' hr'
    exact leaves_deleteRolePolicy hr' id

theorem filter_not_contains {listed : NameSet} {loaded : List String} :
    loaded.filter (!listed.contains ·) = loaded.filter (· ∉ listed.toList) := by
  apply List.filter_congr
  intro name _
  rw [Bool.eq_iff_iff, decide_eq_true_iff, NameSet.mem_toList, Bool.not_eq_true', Dict.contains_eq_false_iff]

theorem leaves_matchFunctions {listed : NameSet}
    (hstored : ∀ name ∈ listed, ¬ r.stock.Has (.function name) → store.snapshot.Has (.function name)) :
    Leaves (matchFunctions store listed) r fun x => (∃ name ∈ listed, x = .function name) ∨
      r.stock.Has x ∧ ∀ name, x ≠ .function name := by
  rw [matchFunctions]
  apply Leaves.get
  dsimp only
  rw [filter_not_contains]
  apply (leaves_compare (fun _ => False) (fun _ _ => Place.function.inj) (fun _ => Registry.mem_customNames)
    ?_ ?_ ?_ ?_).congr
  · intro x
    simp only [NameSet.mem_toList]
  · intro name hname hnew r' _
    obtain ⟨d, hd, rfl⟩ := Snapshot.function_of_has
      (hstored name (NameSet.mem_toList.mp hname) fun h => hnew (Registry.mem_customNames.mpr h))
    apply Leaves.fetch hd
    exact leaves_addFunction d
  · intro name _ r' _
    exact leaves_deleteFunction name
  · intro x hx
    exact hx.elim
  · intro x hx
    exact hx.elim

end Matching

theorem mem_locations {services : Dict String} {k : String × String} :
    k ∈ locations services ↔ services.get? k.2 = some k.1 := by
  rw [locations, List.mem_mergeSort, List.mem_map, ← Dict.mem_entries_iff]
  constructor
  · rintro ⟨e, he, rfl⟩
    exact he
  · intro h
    exact ⟨_, h, rfl⟩

/-- What is listed is loaded, and nothing else, if the store has all of it that is not loaded. -/
theorem leaves_synchronise {store : MemoryStore} (hstore : store.snapshot.Distinct) {l : Listing} (hl : l.Closed)
    (hstored : ∀ x, l.Has x → ¬ r.stock.Has x → store.snapshot.Has x) : Leaves (synchronise store l) r l.Has := by
  rw [synchronise]
  apply (leaves_matchServices hstore fun name hname => hstored (.service name) hname).bind
  intro r₁ hr₁
  have hservices (name : String) : r₁.stock.Has (.service name) ↔ name ∈ l.services := by
    rw [hr₁]
    exact ⟨fun h => h.1, fun h => ⟨h, or_iff_not_imp_left.mpr fun hnew => ⟨hnew, hstored _ h hnew⟩⟩⟩
  have hitems (i : Item) (hi : l.Has (.item i)) (hnew : ¬ r₁.stock.Has (.item i)) : store.snapshot.Has (.item i) := by
    apply hstored _ hi
    intro h
    exact hnew ((hr₁ (.item i)).mpr ⟨hl i hi, .inl h⟩)
  have hlisted (i : Item) (hi : l.Has (.item i)) : i.service ∈ r₁.serviceNames :=
    Registry.mem_serviceNames.mpr ((hservices _).mpr (hl i hi))
  apply Leaves.get
  dsimp only
  apply (leaves_matchPolicies hstore (fun _ => Registry.mem_serviceNames)
    (fun k hk => hlisted (.policy k.1 k.2) (mem_locations.mp hk))
    fun k hk => hitems (.policy k.1 k.2) (mem_locations.mp hk)).bind
  intro r₂ hr₂
  have hservices₂ (name : String) : name ∈ r₁.serviceNames ↔ r₂.stock.Has (.service name) := by
    simp [hr₂, Registry.mem_serviceNames]
  have hitems₂ (k : String × String) (hk : k ∈ locations l.rolePolicies)
      (hnew : ¬ r₂.stock.Has (.item (.rolePolicy k.1 k.2))) : store.snapshot.Has (.item (.rolePolicy k.1 k.2)) := by
    apply hitems (.rolePolicy k.1 k.2) (mem_locations.mp hk)
    simpa [hr₂] using hnew
  apply (leaves_matchRolePolicies hstore hservices₂
    (fun k hk => hlisted (.rolePolicy k.1 k.2) (mem_locations.mp hk)) hitems₂).bind
  intro r₃ hr₃
  have hfunctions (name : String) (hname : name ∈ NameSet.ofList l.functions)
      (hnew : ¬ r₃.stock.Has (.function name)) : store.snapshot.Has (.function name) := by
    apply hstored (.function name) (NameSet.mem_ofList.mp hname)
    simpa [hr₃, hr₂, hr₁, Place.service?] using hnew
  apply (leaves_matchFunctions hfunctions).congr
  intro x
  match x with
  | .service name => simp [hr₃, hr₂, hservices, Listing.Has]
  | .item (.policy service id) => simp [hr₃, hr₂, mem_locations, Listing.Has]
  | .item (.rolePolicy service id) => simp [hr₃, hr₂, mem_locations, Listing.Has]
  | .function name => simp [Listing.Has]

end Loading
end Turnstile

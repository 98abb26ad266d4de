import Turnstile.Proofs.Live.Matching

/-! What a comparison with a listing leaves behind if it succeeds, whatever was loaded and whatever the store has.
The parts of the comparison follow each other, and a service that is fetched brings rules that the listing may not
have: each part reads anew what is loaded, so that these go again. -/
namespace Turnstile

namespace Snapshot
variable {s : Snapshot} {service id name : String}

theorem name_of_service {x : Service} (h : s.service name = .ok x) : x.name = name := by
  rw [Snapshot.service] at h
  split at h
  · next hfound =>
    cases h
    simpa using List.find?_some hfound
  · cases h

theorem id_of_policy {p : Policy} (h : s.policy service id = .ok p) : p.id = id := by
  cases hx : s.service service with
  | error _ =>
    rw [Snapshot.policy, hx] at h
    cases h
  | ok x =>
    rw [Snapshot.policy, hx, show (.ok x : Except Error Service) = pure x from rfl, pure_bind] at h
    split at h
    · next hfound =>
      cases h
      simpa using List.find?_some hfound
    · cases h

theorem id_of_rolePolicy {p : RolePolicy} (h : s.rolePolicy service id = .ok p) : p.id = id := by
  cases hx : s.service service with
  | error _ =>
    rw [Snapshot.rolePolicy, hx] at h
    cases h
  | ok x =>
    rw [Snapshot.rolePolicy, hx, show (.ok x : Except Error Service) = pure x from rfl, pure_bind] at h
    split at h
    · next hfound =>
      cases h
      simpa using List.find?_some hfound
    · cases h

theorem name_of_function {d : FunctionDefinition} (h : s.function name = .ok d) : d.name = name := by
  rw [Snapshot.function] at h
  split at h
  · next hfound =>
    cases h
    simpa using List.find?_some hfound
  · cases h

end Snapshot

namespace Loading
variable {β γ : Type} {r : Registry}

/-- If the loading succeeds, then with such a result. -/
def Ensures (l : Loading β) (r : Registry) (post : β → Registry → Prop) : Prop :=
  ∀ b r', l r = (.ok b, r') → post b r'

theorem Ensures.mono {l : Loading β} {p q : β → Registry → Prop} (h : Ensures l r p)
    (hpq : ∀ b r', p b r' → q b r') :
    Ensures l r q :=
  fun b r' hrun => hpq b r' (h b r' hrun)

private theorem bind_run_error {l : Loading β} {m : β → Loading γ} {r' : Registry} {e : Error}
    (h : l r = (.error e, r')) : (l >>= m) r = (.error e, r') := by
  change ExceptT.bindCont m (l r).1 (l r).2 = _
  rw [h]
  rfl

theorem Ensures.bind {l : Loading β} {m : β → Loading γ} {p : β → Registry → Prop} {q : γ → Registry → Prop}
    (h : Ensures l r p) (hm : ∀ b r', p b r' → Ensures (m b) r' q) : Ensures (l >>= m) r q := by
  intro c r'' hrun
  cases hl : l r with
  | mk result r' =>
    cases result with
    | ok b => exact hm b r' (h b r' hl) c r'' ((bind_run hl).symm.trans hrun)
    | error e => cases (bind_run_error hl).symm.trans hrun

theorem Ensures.get {m : Registry → Loading γ} {q : γ → Registry → Prop} (h : Ensures (m r) r q) :
    Ensures (MonadState.get >>= m) r q := h

theorem Ensures.fetch {a : Except Error β} {m : β → Loading γ} {q : γ → Registry → Prop}
    (h : ∀ b, a = .ok b → Ensures (m b) r q) : Ensures ((liftM a : Loading β) >>= m) r q := by
  cases a with
  | ok b => exact h b rfl
  | error e =>
    intro _ _ hrun
    cases hrun

theorem Ensures.check {services : List String} {service id : String} {m : Loading γ} {q : γ → Registry → Prop}
    (h : Ensures m r q) : Ensures (checkService services service id >>= fun _ => m) r q := by
  rw [checkService]
  split
  · exact h
  · intro _ _ hrun
    cases hrun

theorem ensures_forM {f : β → Loading Unit} {l : List β} {P : List β → Registry → Prop}
    (h : ∀ done, ∀ b ∈ l, ∀ r, P done r → Ensures (f b) r fun _ => P (done ++ [b])) (hr : P [] r) :
    Ensures (l.forM f) r fun _ => P l := by
  have key (rest done : List β) (hrest : ∀ b ∈ rest, b ∈ l) (r : Registry) (hr : P done r) :
      Ensures (rest.forM f) r fun _ => P (done ++ rest) := by
    induction rest generalizing done r with
    | nil =>
      rintro _ _ ⟨⟩
      rwa [List.append_nil]
    | cons b rest ih =>
      rw [List.append_cons]
      change Ensures (f b >>= fun _ => rest.forM f) r _
      refine (h done b (hrest b List.mem_cons_self) r hr).bind fun _ => ?_
      exact ih (done ++ [b]) fun a ha => hrest a (List.mem_cons_of_mem b ha)
  exact key l [] (fun _ hb => hb) r hr

theorem Leaves.ensures {l : Loading Unit} {places : Place → Prop} (h : Leaves l r places) :
    Ensures l r fun _ r' => ∀ x, r'.stock.Has x ↔ places x := by
  obtain ⟨r₁, hrun₁, hplaces⟩ := h
  intro _ r' hrun
  rw [hrun₁] at hrun
  cases hrun
  exact hplaces

/-- A service is changed only if it is loaded. -/
theorem ensures_changeService {service : String} {f : Registry → LoadedService → LoadedService} {places : Place → Prop}
    (h : r.stock.Has (.service service) → Leaves (attempt fun r => r.changeService service (f r)) r places) :
    Ensures (attempt fun r => r.changeService service (f r)) r fun _ r' => ∀ x, r'.stock.Has x ↔ places x := by
  cases hs : r.service? service with
  | some s =>
    have hservice : r.stock.Has (.service service) := Dict.mem_map.mpr (Dict.mem_of_get? hs)
    exact (h hservice).ensures
  | none =>
    intro _ r' hrun
    rw [attempt, Registry.changeService, hs] at hrun
    cases hrun

section Items
variable {service : String}

theorem ensures_addPolicy (p : Policy) : Ensures (addPolicy service p) r fun _ r' =>
    ∀ x, r'.stock.Has x ↔ r.stock.Has x ∨ x = .item (.policy service p.id) :=
  ensures_changeService (f := fun r s => s.addPolicy r.functions p) fun h => leaves_addPolicy h p

theorem ensures_deletePolicy (id : String) : Ensures (deletePolicy service id) r fun _ r' =>
    ∀ x, r'.stock.Has x ↔ r.stock.Has x ∧ x ≠ .item (.policy service id) :=
  ensures_changeService fun h => leaves_deletePolicy h id

theorem ensures_addRolePolicy (p : RolePolicy) : Ensures (addRolePolicy service p) r fun _ r' =>
    ∀ x, r'.stock.Has x ↔ r.stock.Has x ∨ x = .item (.rolePolicy service p.id) :=
  ensures_changeService (f := fun r s => s.addRolePolicy r.functions p) fun h => leaves_addRolePolicy h p

theorem ensures_deleteRolePolicy (id : String) : Ensures (deleteRolePolicy service id) r fun _ r' =>
    ∀ x, r'.stock.Has x ↔ r.stock.Has x ∧ x ≠ .item (.rolePolicy service id) :=
  ensures_changeService fun h => leaves_deleteRolePolicy h id

end Items

section Comparison
variable {κ : Type} [BEq κ] [LawfulBEq κ] {place : κ → Place} {add drop : κ → Loading Unit} {listed loaded : List κ}

/-- Whether there is something in a place is decided by what the single changes do to this place. -/
theorem ensures_compare (hplace : Function.Injective place) {x : Place}
    (hloaded : ∀ k, k ∈ loaded ↔ r.stock.Has (place k))
    (hadd : ∀ k ∈ listed, ∀ r : Registry,
      Ensures (add k) r fun _ r' => r'.stock.Has x ↔ r.stock.Has x ∨ x = place k)
    (hdrop : ∀ k, ∀ r : Registry, Ensures (drop k) r fun _ r' => r'.stock.Has x ↔ r.stock.Has x ∧ x ≠ place k) :
    Ensures ((listed.filter (· ∉ loaded)).forM add >>= fun _ => (loaded.filter (· ∉ listed)).forM drop) r fun _ r' =>
      r'.stock.Has x ↔ (∃ k ∈ listed, x = place k) ∨ r.stock.Has x ∧ ∀ k, x ≠ place k := by
  have hadded : Ensures ((listed.filter (· ∉ loaded)).forM add) r fun _ r' =>
      r'.stock.Has x ↔ r.stock.Has x ∨ ∃ k ∈ listed.filter (· ∉ loaded), x = place k := by
    apply ensures_forM (P := fun done r' => r'.stock.Has x ↔ r.stock.Has x ∨ ∃ k ∈ done, x = place k)
    · intro done k hk r₁ hr₁
      refine (hadd k (List.mem_filter.mp hk).1 r₁).mono fun _ r₂ hr₂ => ?_
      rw [hr₂, hr₁]
      simp only [List.mem_append, List.mem_singleton, or_and_right, exists_or, exists_eq_left, or_assoc]
    · simp
  refine hadded.bind fun _ r₁ hr₁ => ?_
  have hdropped : Ensures ((loaded.filter (· ∉ listed)).forM drop) r₁ fun _ r' =>
      r'.stock.Has x ↔ r₁.stock.Has x ∧ ∀ k ∈ loaded.filter (· ∉ listed), x ≠ place k := by
    apply ensures_forM (P := fun done r' => r'.stock.Has x ↔ r₁.stock.Has x ∧ ∀ k ∈ done, x ≠ place k)
    · intro done k _ r₂ hr₂
      refine (hdrop k r₂).mono fun _ r₃ hr₃ => ?_
      rw [hr₃, hr₂, and_assoc, List.forall_mem_append, List.forall_mem_singleton]
    · simp
  refine hdropped.mono fun _ r₂ hr₂ => ?_
  rw [hr₂, hr₁, has_compared hplace hloaded]

/-- Nothing is done if just what is listed is loaded. -/
theorem compare_idle (h : ∀ k, k ∈ listed ↔ k ∈ loaded) :
    ((listed.filter (· ∉ loaded)).forM add >>= fun _ => (loaded.filter (· ∉ listed)).forM drop) r = (.ok (), r) := by
  have hmissing : listed.filter (· ∉ loaded) = [] :=
    List.filter_eq_nil_iff.mpr fun k hk => by simpa using (h k).mp hk
  have hsurplus : loaded.filter (· ∉ listed) = [] :=
    List.filter_eq_nil_iff.mpr fun k hk => by simpa using (h k).mpr hk
  rw [hmissing, hsurplus]
  rfl

end Comparison

section Matching
variable {store : MemoryStore}

/-- Only of the services is told. A service that is fetched may bring rules that are not listed. -/
theorem ensures_matchServices {listed : List String} : Ensures (matchServices store listed) r fun _ r' =>
    ∀ name, r'.stock.Has (.service name) ↔ name ∈ listed := by
  intro _ r' hrun name
  have hplaces : Ensures (matchServices store listed) r fun _ r' => r'.stock.Has (.service name) ↔
      (∃ n ∈ listed, Place.service name = .service n) ∨
        r.stock.Has (.service name) ∧ ∀ n, Place.service name ≠ .service n := by
    rw [matchServices]
    apply Ensures.get
    apply ensures_compare (fun _ _ => Place.service.inj) fun _ => Registry.mem_serviceNames
    · intro n _ r₁
      apply Ensures.fetch
      rintro s hs _ _ ⟨⟩
      obtain rfl := Snapshot.name_of_service hs
      rw [Registry.stock_addService, Stock.Has, Dict.mem_insert, Place.service.injEq, or_comm]
      rfl
    · rintro n r₁ _ _ ⟨⟩
      rw [Registry.has_deleteService]
      simp [Place.service?]
  refine (hplaces _ r' hrun).trans ?_
  simp

theorem ensures_matchPolicies {services : List String} {listed : List (String × String)} :
    Ensures (matchPolicies store services listed) r fun _ r' => ∀ x, r'.stock.Has x ↔
      (∃ k ∈ listed, x = .item (.policy k.1 k.2)) ∨
        r.stock.Has x ∧ ∀ k : String × String, x ≠ .item (.policy k.1 k.2) := by
  intro b r' hrun x
  refine Ensures.get (q := fun _ r' => r'.stock.Has x ↔ _) ?_ b r' hrun
  apply ensures_compare (fun _ _ h => policy_injective (Place.item.inj h)) fun _ => Registry.mem_policyLocations
  · rintro ⟨service, id⟩ _ r₁
    apply Ensures.check
    apply Ensures.fetch
    intro p hp
    obtain rfl := Snapshot.id_of_policy hp
    exact (ensures_addPolicy p).mono fun _ _ h => h x
  · rintro ⟨service, id⟩ r₁
    exact (ensures_deletePolicy id).mono fun _ _ h => h x

theorem ensures_matchRolePolicies {services : List String} {listed : List (String × String)} :
    Ensures (matchRolePolicies store services listed) r fun _ r' => ∀ x, r'.stock.Has x ↔
      (∃ k ∈ listed, x = .item (.rolePolicy k.1 k.2)) ∨
        r.stock.Has x ∧ ∀ k : String × String, x ≠ .item (.rolePolicy k.1 k.2) := by
  intro b r' hrun x
  refine Ensures.get (q := fun _ r' => r'.stock.Has x ↔ _) ?_ b r' hrun
  apply ensures_compare (fun _ _ h => rolePolicy_injective (Place.item.inj h)) fun _ => Registry.mem_rolePolicyLocations
  · rintro ⟨service, id⟩ _ r₁
    apply Ensures.check
    apply Ensures.fetch
    intro p hp
    obtain rfl := Snapshot.id_of_rolePolicy hp
    exact (ensures_addRolePolicy p).mono fun _ _ h => h x
  · rintro ⟨service, id⟩ r₁
    exact (ensures_deleteRolePolicy id).mono fun _ _ h => h x

private theorem matchFunctions_run {listed : NameSet} : matchFunctions store listed r =
    ((listed.toList.filter (· ∉ r.functions.customNames)).forM
        (fun name => do addFunction (← PolicyStore.function store name)) >>= fun _ =>
      (r.functions.customNames.filter (· ∉ listed.toList)).forM deleteFunction) r := by
  rw [← filter_not_contains]
  rfl

theorem ensures_matchFunctions {listed : NameSet} : Ensures (matchFunctions store listed) r fun _ r' => ∀ x,
    r'.stock.Has x ↔ (∃ name ∈ listed, x = .function name) ∨ r.stock.Has x ∧ ∀ name, x ≠ .function name := by
  intro b r' hrun x
  rw [matchFunctions_run] at hrun
  simp only [← NameSet.mem_toList]
  refine ensures_compare (fun _ _ => Place.function.inj) (fun _ => Registry.mem_customNames) ?_ ?_ b r' hrun
  · intro name _ r₁
    apply Ensures.fetch
    rintro d hd _ _ ⟨⟩
    obtain rfl := Snapshot.name_of_function hd
    exact Registry.has_addFunction
  · rintro name r₁ _ _ ⟨⟩
    exact Registry.has_deleteFunction

/-- Each part of the comparison sets its own places right, and leaves those that an earlier part has set. -/
theorem ensures_synchronise {l : Listing} :
    Ensures (synchronise store l) r fun _ r' => ∀ x, r'.stock.Has x ↔ l.Has x := by
  rw [synchronise]
  refine ensures_matchServices.bind fun _ r₁ hr₁ => Ensures.get ?_
  refine ensures_matchPolicies.bind fun _ r₂ hr₂ => ?_
  refine ensures_matchRolePolicies.bind fun _ r₃ hr₃ => ?_
  refine ensures_matchFunctions.mono fun _ r₄ hr₄ x => ?_
  cases x with
  | service name => simp [hr₄, hr₃, hr₂, hr₁, Listing.Has]
  | item i =>
    cases i with
    | policy service id => simp [hr₄, hr₃, hr₂, mem_locations, Listing.Has]
    | rolePolicy service id => simp [hr₄, hr₃, mem_locations, Listing.Has]
  | function name => simp [hr₄, Listing.Has]

/-- Nothing is fetched and nothing is dropped if just what is listed is loaded. -/
theorem synchronise_idle {l : Listing} (h : ∀ x, r.stock.Has x ↔ l.Has x) : synchronise store l r = (.ok (), r) := by
  have hservices : matchServices store l.services r = (.ok (), r) :=
    compare_idle fun name => (h (.service name)).symm.trans Registry.mem_serviceNames.symm
  have hpolicies (services : List String) : matchPolicies store services (locations l.policies) r = (.ok (), r) :=
    compare_idle fun k => mem_locations.trans ((h _).symm.trans Registry.mem_policyLocations.symm)
  have hrolePolicies (services : List String) :
      matchRolePolicies store services (locations l.rolePolicies) r = (.ok (), r) :=
    compare_idle fun k => mem_locations.trans ((h _).symm.trans Registry.mem_rolePolicyLocations.symm)
  have hfunctions : matchFunctions store (.ofList l.functions) r = (.ok (), r) := by
    rw [matchFunctions_run]
    apply compare_idle
    intro name
    rw [NameSet.mem_toList, NameSet.mem_ofList, Registry.mem_customNames]
    exact (h (.function name)).symm
  exact (bind_run hservices).trans ((bind_run (hpolicies _)).trans ((bind_run (hrolePolicies _)).trans hfunctions))

end Matching

variable {r' : Registry} {store : MemoryStore} {l : Listing}

/-- A comparison with a listing that succeeds leaves just what is listed, whatever was loaded, whatever the store
has and wherever the listing comes from. Made again it finds nothing to do. -/
theorem synchronise_exact (succeeds : synchronise store l r = (.ok (), r')) :
    (∀ name, name ∈ r'.serviceNames ↔ name ∈ l.services) ∧
    (∀ service id, (service, id) ∈ r'.policyLocations ↔ l.policies.get? id = some service) ∧
    (∀ service id, (service, id) ∈ r'.rolePolicyLocations ↔ l.rolePolicies.get? id = some service) ∧
    (∀ name, name ∈ r'.functions.customNames ↔ name ∈ l.functions) ∧
    synchronise store l r' = (.ok (), r') := by
  have hplaces := ensures_synchronise _ r' succeeds
  have hhas (x : Place) : r'.Has x ↔ l.Has x := (Registry.has_stock x).symm.trans (hplaces x)
  exact ⟨fun name => hhas (.service name), fun service id => hhas (.item (.policy service id)),
    fun service id => hhas (.item (.rolePolicy service id)), fun name => hhas (.function name),
    synchronise_idle hplaces⟩

section Annex

/-- What was loaded before the annex was built. -/
def beforeAnnex : Registry := Registry.reload {} {
  functions := [{ name := "closing" }]
  services := [{ name := "archive", policies := [{ id := "9", effect := .deny }] },
    { name := "library", policies := [{ id := "1", effect := .grant }] }] }

/-- The annex has more than is listed of it. -/
def annexed : MemoryStore where
  snapshot := {
    functions := [{ name := "opening" }]
    services := [{ name := "library", policies := [{ id := "3", effect := .deny }] },
      { name := "annex"
        policies := [{ id := "2", effect := .grant }, { id := "4", effect := .deny }]
        rolePolicies := [{ id := "5", effect := .grant }] }] }

def annexListing : Listing where
  services := ["annex", "library"]
  policies := .ofList [("2", "annex"), ("3", "library")]
  functions := ["opening"]

theorem synchronise_exact_annex : ∃ r', synchronise annexed annexListing beforeAnnex = (.ok (), r') ∧
    (∀ name, name ∈ r'.serviceNames ↔ name ∈ annexListing.services) ∧
    (∀ service id, (service, id) ∈ r'.policyLocations ↔ annexListing.policies.get? id = some service) ∧
    (∀ service id, (service, id) ∈ r'.rolePolicyLocations ↔ annexListing.rolePolicies.get? id = some service) ∧
    (∀ name, name ∈ r'.functions.customNames ↔ name ∈ annexListing.functions) ∧
    synchronise annexed annexListing r' = (.ok (), r') := by
  have hlocations : locations annexListing.policies = [("annex", "2"), ("library", "3")] :=
    List.mergeSort_of_pairwise (by decide)
  have hnone : locations annexListing.rolePolicies = [] := List.mergeSort_nil
  have hok : (synchronise annexed annexListing beforeAnnex).1 = .ok () := by
    rw [synchronise, hlocations, hnone]
    decide +kernel
  have succeeds : synchronise annexed annexListing beforeAnnex =
    (.ok (), (synchronise annexed annexListing beforeAnnex).2) := Prod.ext hok rfl
  exact ⟨_, succeeds, synchronise_exact succeeds⟩

end Annex

end Loading

end Turnstile

import Turnstile.Proofs.Evaluation.Roles

/-! Rules that were tried. An evaluation tries rules of several services one after the other, each of them once, and
what it goes on with depends on which of them held. -/
namespace Turnstile
variable {σ τ α β γ : Type}

section Runs
variable {f : α → StateM τ β} {l : List α} {s : τ}

theorem mapM_cons_run (a : α) : (a :: l).mapM f s =
    ((f a s).1 :: (l.mapM f (f a s).2).1, (l.mapM f (f a s).2).2) := by
  rw [List.mapM_cons]
  rfl

/-- What is folded in turn can be found out before. -/
theorem foldlM_eq_mapM (f : α → StateM τ β) (g : γ → β → γ) (l : List α) (c : γ) :
    l.foldlM (fun c a => do return g c (← f a)) c = do return (← l.mapM f).foldl g c := by
  funext s
  induction l generalizing c s with
  | nil => rfl
  | cons a l ih =>
    rw [List.foldlM_cons]
    refine (ih (g c (f a s).1) (f a s).2).trans ?_
    change _ = (((a :: l).mapM f s).1.foldl g c, ((a :: l).mapM f s).2)
    rw [mapM_cons_run]
    rfl

/-- What an invariant tells about each result. -/
theorem forall₂_mapM {I : τ → Prop} {P : α → β → Prop}
    (h : ∀ a ∈ l, ∀ s, I s → P a (f a s).1 ∧ I (f a s).2) (hs : I s) : List.Forall₂ P l (l.mapM f s).1 := by
  induction l generalizing s with
  | nil => exact .nil
  | cons a l ih =>
    obtain ⟨hresult, hstate⟩ := h a List.mem_cons_self s hs
    rw [mapM_cons_run]
    exact .cons hresult (ih (fun a ha => h a (List.mem_cons_of_mem _ ha)) hstate)

theorem forall_mem_mapM {I : τ → Prop} {P : β → Prop}
    (h : ∀ a ∈ l, ∀ s, I s → P (f a s).1 ∧ I (f a s).2) (hs : I s) :
    ∀ b ∈ (l.mapM f s).1, P b := by
  have hall := forall₂_mapM (P := fun _ b => P b) h hs
  generalize (l.mapM f s).1 = results at hall
  clear h
  induction hall with
  | nil => exact fun _ hb => nomatch hb
  | cons hb _ ih => exact List.forall_mem_cons.mpr ⟨hb, ih⟩

/-- What is noted in turn is a list of what was found out. -/
theorem mapM_noted {δ : Type} {log : τ → List δ} {note : β → δ}
    (h : ∀ a s, log (f a s).2 = log s ++ [note (f a s).1]) (l : List α) (s : τ) :
    log (l.mapM f s).2 = log s ++ (l.mapM f s).1.map note := by
  induction l generalizing s with
  | nil => exact (List.append_nil _).symm
  | cons a l ih => rw [mapM_cons_run, ih, h, List.map_cons, List.append_assoc, List.singleton_append]

/-- Two loops in one. -/
theorem foldlM_flatMap_map {ι : Type} {services : List ι} {found : ι → List α}
    (g : γ → ι → α → StateM τ γ) (c : γ) :
    services.foldlM (fun c i => (found i).foldlM (fun c a => g c i a) c) c =
      (services.flatMap fun i => (found i).map (i, ·)).foldlM (fun c x => g c x.1 x.2) c := by
  induction services generalizing c with
  | nil => rfl
  | cons i services ih =>
    rw [List.foldlM_cons, List.flatMap_cons, List.foldlM_append, List.foldlM_map]
    exact bind_congr fun c => ih c

end Runs

/-- A rule of a service was tried, and it held or not. -/
structure Verdict (α : Type) where
  service : LoadedService
  rule : α
  held : Bool

namespace Verdict

def origin (v : Verdict α) : LoadedService × α := (v.service, v.rule)

/-- Identifiers tell the rules of one service apart. -/
def key [Rule α] (v : Verdict α) : String × String := (v.service.name, Rule.id v.rule)

/-- The rules that held. -/
def holding (verdicts : List (Verdict α)) : List α := (verdicts.filter (·.held)).map (·.rule)

theorem mem_holding_iff {verdicts : List (Verdict α)} {a : α} :
    a ∈ holding verdicts ↔ ∃ v ∈ verdicts, v.held = true ∧ v.rule = a := by
  simp only [holding, List.mem_map, List.mem_filter, and_assoc]

theorem foldl_holding (g : γ → α → γ) (verdicts : List (Verdict α)) (c : γ) :
    verdicts.foldl (fun c v => if v.held then g c v.rule else c) c = (holding verdicts).foldl g c := by
  rw [holding, List.foldl_map, List.foldl_filter]

theorem map_origin {verdicts : List (Verdict α)} {l : List (LoadedService × α)}
    (h : List.Forall₂ (fun x v => v.origin = x) l verdicts) : verdicts.map origin = l := by
  induction h with
  | nil => rfl
  | cons h _ ih => rw [List.map_cons, h, ih]

/-- Rules are tried that were found in their services. -/
theorem exists_mem_iff {services : List LoadedService} {found : LoadedService → List α} {verdicts : List (Verdict α)}
    (tried : verdicts.map origin = services.flatMap fun service => (found service).map (service, ·))
    {service : LoadedService} {a : α} :
    (∃ v ∈ verdicts, v.service = service ∧ v.rule = a) ↔ service ∈ services ∧ a ∈ found service := by
  have horigin : (∃ v ∈ verdicts, v.service = service ∧ v.rule = a) ↔ (service, a) ∈ verdicts.map origin := by
    simp only [List.mem_map, origin, Prod.mk.injEq]
  rw [horigin, tried]
  simp

/-- What a diagnosis notes about a role policy. -/
def entry (v : Verdict RolePolicy) : DiagnosedRolePolicy := .ofRolePolicy v.rule v.held

end Verdict

section Once
variable [Rule α]

/-- What is kept of a look-up has no identifier twice. -/
theorem RuleCache.Sound.nodup_related {c : RuleCache α} (h : c.Sound) (principals : List String)
    (resource : Option String) (keep : α → Bool) :
    (((c.related principals resource).values.filter keep).map Rule.id).Nodup := by
  have hids : (c.related principals resource).values.map Rule.id = (c.related principals resource).keys := by
    rw [Dict.values, List.map_map, Dict.keys]
    refine List.map_congr_left fun x hx => h.ids x.1 x.2 ?_
    have hfound := (Dict.mem_entries_iff ..).mp hx
    rw [related, Dict.get?_filter, Option.filter_eq_some_iff] at hfound
    exact hfound.1
  refine List.Nodup.sublist (List.filter_sublist.map _) ?_
  rw [hids]
  exact Dict.nodup_keys _

/-- The services of an inquiry have names of their own. -/
theorem Registry.nodup_services {r : Registry} (orderly : r.Orderly) {asserter : Option TokenAsserter} {now : ClockTime}
    {request : Request} {q : Inquiry} (hq : r.inquire asserter now request = .ok q) :
    (q.services.map (·.name)).Nodup := by
  obtain ⟨target, subject, htarget, -, rfl⟩ := of_inquire hq
  have hname := (orderly _ _ htarget).1
  by_cases hsame : request.service = Service.globalName
  · rw [if_pos hsame]
    exact List.nodup_singleton _
  · rw [if_neg hsame]
    cases hglobal : r.global? with
    | none => exact List.nodup_singleton _
    | some global =>
      have hglobalName := (orderly _ _ hglobal).1
      refine List.nodup_cons.mpr ⟨fun hmem => hsame ?_, List.nodup_singleton _⟩
      have hmem : target.name = global.name := List.mem_singleton.mp hmem
      rw [← hname, ← hglobalName, hmem]

/-- What is tried in services of different names is tried once. -/
theorem Verdict.nodup_keys {services : List LoadedService} (names : (services.map (·.name)).Nodup)
    {found : LoadedService → List α} (ids : ∀ service ∈ services, ((found service).map Rule.id).Nodup)
    {verdicts : List (Verdict α)}
    (tried : verdicts.map origin = services.flatMap fun service => (found service).map (service, ·)) :
    (verdicts.map key).Nodup := by
  have hkeys : verdicts.map key =
      services.flatMap fun service => ((found service).map Rule.id).map (service.name, ·) := by
    have hkey : (key : Verdict α → _) = (fun x : LoadedService × α => (x.1.name, Rule.id x.2)) ∘ origin := rfl
    rw [hkey, ← List.map_map, tried, List.map_flatMap]
    simp only [List.map_map]
    rfl
  rw [hkeys, List.nodup_flatMap]
  refine ⟨fun service hs => (ids service hs).map fun _ _ h => (Prod.ext_iff.mp h).2, ?_⟩
  rw [List.nodup_iff_pairwise_ne, List.pairwise_map] at names
  refine names.imp fun hne x hx hx' => hne ?_
  obtain ⟨_, -, rfl⟩ := List.mem_map.mp hx
  obtain ⟨_, -, h⟩ := List.mem_map.mp hx'
  exact (Prod.ext_iff.mp h).1.symm

end Once

namespace Inquiry
variable {w : Surroundings σ} {q : Inquiry} {s : Session σ}

theorem rolePolicies_holds [Rule α] (service : LoadedService) (kind : RuleKind) (cache : RuleCache α) (a : α)
    (s : Session σ) : (q.holds w service kind cache a s).2.rolePolicies = s.rolePolicies := by
  have hcompiled (k : CompiledCondition) (t : Session σ) :
      (q.holdsCompiled w k t).2.rolePolicies = t.rolePolicies := by
    obtain ⟨u, hrun, -, hu⟩ := q.holdsCompiled_spec (w := w) k t
    rw [hrun]
    exact hu
  rw [holds]
  cases Rule.condition? a with
  | none => rfl
  | some expression =>
    cases cache.condition? (Rule.id a) with
    | some k => exact hcompiled k s
    | none =>
      cases hk : CompiledCondition.compile expression q.functions with
      | error _ =>
        simp only [hk]
        rfl
      | ok k =>
        simp only [hk]
        exact hcompiled k _

section Policies

def tryPolicy (w : Surroundings σ) (q : Inquiry) (x : LoadedService × Policy) : Evaluation σ (Verdict Policy) := do
  return ⟨x.1, x.2, ← q.holds w x.1 .policy x.1.policies x.2⟩

/-- The candidates of all services, in order. -/
def allCandidates (q : Inquiry) (presented : List String) (request : Option (String × String)) :
    List (LoadedService × Policy) :=
  q.services.flatMap fun service => (candidates service presented request).map (service, ·)

/-- Tries the candidates one after the other. -/
def tryPolicies (w : Surroundings σ) (q : Inquiry) (presented : List String) (request : Option (String × String)) :
    Evaluation σ (List (Verdict Policy)) :=
  (q.allCandidates presented request).mapM (q.tryPolicy w)

variable {presented : List String} {request : Option (String × String)}

/-- Policies are sorted when all of them have been tried. -/
theorem matchedPolicies_eq_tryPolicies : q.matchedPolicies w presented request = do
    return (← q.tryPolicies w presented request).foldl (fun m v => m.add v.rule v.held) {} := by
  rw [matchedPolicies, foldlM_flatMap_map]
  exact foldlM_eq_mapM (q.tryPolicy w) (fun (m : Matched) v => m.add v.rule v.held) _ {}

theorem map_origin_tryPolicies :
    (q.tryPolicies w presented request s).1.map Verdict.origin = q.allCandidates presented request :=
  Verdict.map_origin (forall₂_mapM (I := fun _ => True) (fun _ _ _ _ => ⟨rfl, trivial⟩) trivial)

theorem mem_allCandidates_iff {service : LoadedService} {p : Policy} :
    (service, p) ∈ q.allCandidates presented request ↔
      service ∈ q.services ∧ p ∈ candidates service presented request := by
  simp [allCandidates]

end Policies

section RolePolicies

/-- Tries a role policy and notes what was found out. -/
def tryRolePolicy (w : Surroundings σ) (q : Inquiry) (x : LoadedService × RolePolicy) :
    Evaluation σ (Verdict RolePolicy) := do
  let v : Verdict RolePolicy := ⟨x.1, x.2, ← q.holds w x.1 .rolePolicy x.1.rolePolicies x.2⟩
  modify fun s => { s with rolePolicies := s.rolePolicies ++ [v.entry] }
  return v

def allRoleCandidates (q : Inquiry) (principals : List String) (seen : NameSet) : List (LoadedService × RolePolicy) :=
  q.services.flatMap fun service => (q.roleCandidates service principals seen).map (service, ·)

/-- Tries the candidates one after the other. -/
def tryRolePolicies (w : Surroundings σ) (q : Inquiry) (principals : List String) (seen : NameSet) :
    Evaluation σ (List (Verdict RolePolicy)) :=
  (q.allRoleCandidates principals seen).mapM (q.tryRolePolicy w)

variable {principals : List String} {seen : NameSet}

theorem query_eq_tryRolePolicies : (q.roleSource w).query principals seen = do
    return (Verdict.holding (← q.tryRolePolicies w principals seen)).foldl MatchedRolePolicies.put {} := by
  have hquery : (q.roleSource w).query principals seen = q.services.foldlM (fun m service =>
      (q.roleCandidates service principals seen).foldlM (addRolePolicy w q service) m) {} := rfl
  rw [hquery, foldlM_flatMap_map]
  simp only [← Verdict.foldl_holding]
  exact foldlM_eq_mapM (q.tryRolePolicy w) (fun (m : MatchedRolePolicies) v => if v.held then m.put v.rule else m) _ {}

theorem map_origin_tryRolePolicies :
    (q.tryRolePolicies w principals seen s).1.map Verdict.origin = q.allRoleCandidates principals seen :=
  Verdict.map_origin (forall₂_mapM (I := fun _ => True) (fun _ _ _ _ => ⟨rfl, trivial⟩) trivial)

theorem rolePolicies_tryRolePolicies : (q.tryRolePolicies w principals seen s).2.rolePolicies =
    s.rolePolicies ++ (q.tryRolePolicies w principals seen s).1.map Verdict.entry := by
  refine mapM_noted (fun x s => ?_) _ s
  exact congrArg (· ++ _) (rolePolicies_holds ..)

end RolePolicies
end Inquiry
end Turnstile

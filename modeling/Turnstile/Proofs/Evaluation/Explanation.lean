import Turnstile.Proofs.Evaluation.Chronicle
import Turnstile.Proofs.Evaluation.Permissions

/-! A diagnosis explains the decision. It tells once about every policy that was tried: those whose conditions failed,
the one that decided, and those that came too late. -/
namespace Turnstile
variable {σ α : Type}

section Quiet

protected theorem Agree.mapM {τ β : Type} {R : σ → τ → Prop} {f : α → StateM σ β} {g : α → StateM τ β}
    {l : List α}
    (h : ∀ a ∈ l, Agree R (f a) (g a)) : Agree R (l.mapM f) (l.mapM g) := by
  induction l with
  | nil => exact .pure []
  | cons a l ih =>
    rw [List.mapM_cons, List.mapM_cons]
    refine (h a List.mem_cons_self).bind fun b => ?_
    exact (ih fun a ha => h a (List.mem_cons_of_mem _ ha)).bind fun _ => .pure _

/-- The sessions differ at most in what is noted about role policies. -/
structure Session.Matches (s t : Session σ) : Prop where
  resolver : s.resolver = t.resolver
  results : s.results = t.results
  compiled : s.compiled = t.compiled

namespace Inquiry
variable {w : Surroundings σ} {q : Inquiry}

/-- The source of the role policies, with no notes. -/
def quietSource (w : Surroundings σ) (q : Inquiry) : RoleSource (Evaluation σ) where
  size := q.services.foldl (fun n s => n + s.rolePolicies.size) 0
  query principals seen := q.services.foldlM (fun m service =>
    (q.roleCandidates service principals seen).foldlM (fun m p => do
      return if ← q.holds w service .rolePolicy service.rolePolicies p then m.put p else m) m) {}

/-- Decides a request, with no report. -/
def judge (w : Surroundings σ) (q : Inquiry) : Evaluation σ Decision := do
  if q.hasNoPolicies then return .deny .noApplicablePolicies
  let roles ← (q.quietSource w).resolve q.principals
  let held := Verdict.holding (← q.tryPolicies w (q.principalsWith roles) (some (q.resource, q.action)))
  return .combine (held.filter fun p => p.effect = .grant).length (held.filter fun p => p.effect = .deny).length

theorem agree_holds_quiet [Rule α] (service : LoadedService) (kind : RuleKind) (cache : RuleCache α) (a : α) :
    Agree Session.Matches (q.holds w service kind cache a) (q.holds w service kind cache a) := by
  have hcompiled (k : CompiledCondition) : Agree Session.Matches (q.holdsCompiled w k) (q.holdsCompiled w k) := by
    intro s t h
    rw [holdsCompiled, holdsCompiled, h.resolver, h.results]
    exact ⟨rfl, rfl, rfl, h.compiled⟩
  rw [holds]
  cases Rule.condition? a with
  | none => exact .pure true
  | some expression =>
    cases cache.condition? (Rule.id a) with
    | some k => exact hcompiled k
    | none =>
      cases hk : CompiledCondition.compile expression q.functions with
      | error _ =>
        simp only [hk]
        exact .pure false
      | ok k =>
        simp only [hk]
        refine Agree.bind (fun s t h => ⟨rfl, h.resolver, h.results, ?_⟩) fun _ => hcompiled k
        exact congrArg (· ++ _) h.compiled

theorem agree_roles_quiet : Agree Session.Matches (q.roles w) ((q.quietSource w).resolve q.principals) := by
  have hsize : (q.roleSource w).size = (q.quietSource w).size := rfl
  refine Agree.resolve (fun principals seen => ?_) hsize q.principals
  refine Agree.foldlM_same (fun m service _ => Agree.foldlM_same (fun m p _ => ?_) m) _
  refine (agree_holds_quiet service .rolePolicy service.rolePolicies p).bind fun held => ?_
  intro s t h
  exact ⟨rfl, h.resolver, h.results, h.compiled⟩

end Inquiry
end Quiet

namespace Decision
variable {granted denied : Nat}

theorem combine_eq_deny_iff : (combine granted denied).reason = .denyPolicyFound ↔ 0 < denied := by
  rw [combine]
  split
  · next h => exact iff_of_true rfl h
  · next h =>
    split
    · exact iff_of_false (by decide) h
    · exact iff_of_false (by decide) h

theorem combine_eq_grant_iff : (combine granted denied).reason = .grantPolicyFound ↔ denied = 0 ∧ 0 < granted := by
  rw [combine]
  split
  · next h => exact iff_of_false (by decide) fun hnone => absurd hnone.1 (Nat.pos_iff_ne_zero.mp h)
  · next h =>
    have hnone := Nat.eq_zero_of_not_pos h
    split
    · next h => exact iff_of_true rfl ⟨hnone, h⟩
    · next h => exact iff_of_false (by decide) fun hsome => h hsome.2

theorem allowed_combine_iff : (combine granted denied).allowed = true ↔
    (combine granted denied).reason = .grantPolicyFound := by
  rw [combine]
  split
  · exact iff_of_false (by decide) (by decide)
  · split
    · exact iff_of_true rfl rfl
    · exact iff_of_false (by decide) (by decide)

end Decision

section Report

/-- The result of a condition that a diagnosis tells. -/
def Outcome.result : Outcome → Option Bool
  | takesEffect => some true
  | conditionFailed => some false
  | ignored => none

namespace Verdict

def failures (verdicts : List (Verdict Policy)) : List (Verdict Policy) := verdicts.filter (!·.held)

/-- Those that held and have the effect. -/
def effects (effect : Effect) (verdicts : List (Verdict Policy)) : List (Verdict Policy) :=
  verdicts.filter fun v => v.held && v.rule.effect = effect

def tell (outcome : Outcome) (verdicts : List (Verdict Policy)) : List (Verdict Policy × Outcome) :=
  verdicts.map (·, outcome)

/-- Of the policies that held the first denial takes effect, or else the first grant. -/
def ranked (verdicts : List (Verdict Policy)) : List (Verdict Policy × Outcome) :=
  match effects .deny verdicts ++ effects .grant verdicts with
  | [] => []
  | first :: later => (first, .takesEffect) :: tell .ignored later

/-- What is told about some policies that were tried. -/
def told (verdicts : List (Verdict Policy)) : List (Verdict Policy × Outcome) :=
  tell .conditionFailed (failures verdicts) ++ ranked verdicts

variable {verdicts : List (Verdict Policy)} {v : Verdict Policy} {effect : Effect} {outcome : Outcome}
  {x : Verdict Policy × Outcome}

@[simp] theorem map_fst_tell : (tell outcome verdicts).map Prod.fst = verdicts := by
  rw [tell, List.map_map]
  exact List.map_id _

@[simp] theorem mem_tell_iff : x ∈ tell outcome verdicts ↔ x.1 ∈ verdicts ∧ x.2 = outcome := by
  rw [tell, List.mem_map]
  constructor
  · rintro ⟨v, hv, rfl⟩
    exact ⟨hv, rfl⟩
  · rintro ⟨hx, rfl⟩
    exact ⟨x.1, hx, rfl⟩

theorem mem_effects_iff : v ∈ effects effect verdicts ↔ v ∈ verdicts ∧ v.held = true ∧ v.rule.effect = effect := by
  rw [effects, List.mem_filter, Bool.and_eq_true, decide_eq_true_eq]

/-- There is no third effect. -/
theorem mem_effects_append_iff :
    v ∈ effects .deny verdicts ++ effects .grant verdicts ↔ v ∈ verdicts ∧ v.held = true := by
  rw [List.mem_append, mem_effects_iff, mem_effects_iff]
  cases v.rule.effect with
  | grant => simp
  | deny => simp

/-- Sorting the policies that were tried is sorting what was found out. -/
theorem foldl_add (verdicts : List (Verdict Policy)) (m : Inquiry.Matched) :
    verdicts.foldl (fun m v => m.add v.rule v.held) m =
      ⟨m.granted ++ (effects .grant verdicts).map (·.rule), m.denied ++ (effects .deny verdicts).map (·.rule),
        m.failed ++ (failures verdicts).map (·.rule)⟩ := by
  induction verdicts generalizing m with
  | nil => simp [effects, failures]
  | cons v verdicts ih =>
    rw [List.foldl_cons, ih, Inquiry.Matched.add]
    cases hheld : v.held with
    | false => simp [effects, failures, hheld]
    | true =>
      cases heffect : v.rule.effect with
      | grant => simp [effects, failures, hheld, heffect]
      | deny => simp [effects, failures, hheld, heffect]

theorem filter_holding :
    (holding verdicts).filter (fun p => p.effect = effect) = (effects effect verdicts).map (·.rule) := by
  rw [holding, effects, List.filter_map, List.filter_filter]
  refine congrArg (List.map _) (List.filter_congr fun v _ => ?_)
  exact Bool.and_comm _ _

theorem map_fst_ranked : (ranked verdicts).map Prod.fst = effects .deny verdicts ++ effects .grant verdicts := by
  rw [ranked]
  cases effects .deny verdicts ++ effects .grant verdicts with
  | nil => rfl
  | cons first later => rw [List.map_cons, map_fst_tell]

/-- Nothing is lost, and nothing is told twice. -/
theorem perm_map_fst_told : ((told verdicts).map Prod.fst).Perm verdicts := by
  have heffects : (effects .deny verdicts ++ effects .grant verdicts).Perm (verdicts.filter (·.held)) := by
    have hsplit := List.filter_append_perm (fun v : Verdict Policy => v.rule.effect = .deny) (verdicts.filter (·.held))
    have hother : (fun v : Verdict Policy => !decide (v.rule.effect = .deny)) =
        fun v => decide (v.rule.effect = .grant) := by
      funext v
      cases v.rule.effect with
      | grant => rfl
      | deny => rfl
    rw [hother, List.filter_filter, List.filter_filter] at hsplit
    simpa only [effects, Bool.and_comm] using hsplit
  rw [told, List.map_append, map_fst_tell, map_fst_ranked]
  refine (List.perm_append_comm.trans (heffects.append_right _)).trans ?_
  exact List.filter_append_perm (·.held) verdicts

/-- Nothing that is ranked failed. -/
theorem of_mem_ranked (hx : x ∈ ranked verdicts) : x.1.held = true ∧ x.2 ≠ .conditionFailed := by
  have hheld : x.1 ∈ effects .deny verdicts ++ effects .grant verdicts := by
    rw [← map_fst_ranked]
    exact List.mem_map_of_mem hx
  refine ⟨(mem_effects_append_iff.mp hheld).2, ?_⟩
  rw [ranked] at hx
  split at hx
  · cases hx
  · rcases List.mem_cons.mp hx with rfl | hx
    · exact Outcome.noConfusion
    · rw [(mem_tell_iff.mp hx).2]
      exact Outcome.noConfusion

/-- What takes effect among what is told. -/
theorem filter_told : (told verdicts).filter (·.2 = .takesEffect) =
    ((effects .deny verdicts ++ effects .grant verdicts).head?.map (·, Outcome.takesEffect)).toList := by
  have hother (outcome : Outcome) (ho : outcome ≠ .takesEffect) (l : List (Verdict Policy)) :
      (tell outcome l).filter (·.2 = .takesEffect) = [] := by
    rw [List.filter_eq_nil_iff]
    intro x hx
    rw [(mem_tell_iff.mp hx).2, decide_eq_true_eq]
    exact ho
  rw [told, List.filter_append, hother .conditionFailed (by decide), List.nil_append, ranked]
  cases effects .deny verdicts ++ effects .grant verdicts with
  | nil => rfl
  | cons first later =>
    rw [List.filter_cons_of_pos (by rfl), hother .ignored (by decide)]
    rfl

/-- What comes first denies, or else there is no denial. -/
theorem of_head?_effects (h : (effects .deny verdicts ++ effects .grant verdicts).head? = some v) :
    v.rule.effect = .deny ∧ effects .deny verdicts ≠ [] ∨
      v.rule.effect = .grant ∧ effects .deny verdicts = [] ∧ effects .grant verdicts ≠ [] := by
  cases hdeny : effects .deny verdicts with
  | cons first later =>
    rw [hdeny] at h
    obtain rfl := Option.some.inj h
    have hfirst : first ∈ effects .deny verdicts := hdeny ▸ List.mem_cons_self
    exact .inl ⟨(mem_effects_iff.mp hfirst).2.2, List.cons_ne_nil _ _⟩
  | nil =>
    rw [hdeny, List.nil_append] at h
    have hfirst : v ∈ effects .grant verdicts := List.mem_of_mem_head? h
    exact .inr ⟨(mem_effects_iff.mp hfirst).2.2, rfl, List.ne_nil_of_mem hfirst⟩

theorem effects_ne_nil_iff : effects effect verdicts ≠ [] ↔
    ∃ v ∈ verdicts, v.held = true ∧ v.rule.effect = effect := by
  simp only [ne_eq, List.eq_nil_iff_forall_not_mem, mem_effects_iff, not_forall, not_not]

/-- Something comes first if something held. -/
theorem exists_head?_effects (verdicts : List (Verdict Policy)) :
    (∃ v, (effects .deny verdicts ++ effects .grant verdicts).head? = some v) ↔ ∃ v ∈ verdicts, v.held = true := by
  constructor
  · rintro ⟨v, hv⟩
    exact ⟨v, mem_effects_append_iff.mp (List.mem_of_mem_head? hv)⟩
  · rintro ⟨v, hv⟩
    have hsome := mem_effects_append_iff.mpr hv
    exact Option.ne_none_iff_exists'.mp (mt List.head?_eq_none_iff.mp (List.ne_nil_of_mem hsome))

/-- What takes effect is what comes first. -/
theorem takesEffect_iff : x ∈ told verdicts ∧ x.2 = .takesEffect ↔
    (effects .deny verdicts ++ effects .grant verdicts).head? = some x.1 ∧ x.2 = .takesEffect := by
  have hmem : x ∈ (told verdicts).filter (·.2 = .takesEffect) ↔ x ∈ told verdicts ∧ x.2 = .takesEffect := by
    rw [List.mem_filter, decide_eq_true_eq]
  rw [← hmem, filter_told, Option.mem_toList, Option.map_eq_some_iff]
  constructor
  · rintro ⟨v, hv, rfl⟩
    exact ⟨hv, rfl⟩
  · rintro ⟨hv, houtcome⟩
    exact ⟨x.1, hv, Prod.ext rfl houtcome.symm⟩

theorem exists_takesEffect (h : ∃ v ∈ verdicts, v.held = true) : ∃ x ∈ told verdicts, x.2 = .takesEffect := by
  obtain ⟨v, hv⟩ := (exists_head?_effects verdicts).mpr h
  exact ⟨(v, .takesEffect), takesEffect_iff.mpr ⟨hv, rfl⟩⟩

theorem exists_takesEffect_deny_iff : (∃ x ∈ told verdicts, x.2 = .takesEffect ∧ x.1.rule.effect = .deny) ↔
    effects .deny verdicts ≠ [] := by
  constructor
  · rintro ⟨x, hx, htakes, heffect⟩
    rcases of_head?_effects (takesEffect_iff.mp ⟨hx, htakes⟩).1 with h | h
    · exact h.2
    · cases heffect.symm.trans h.1
  · intro hdeny
    obtain ⟨v, hv, hheld, -⟩ := effects_ne_nil_iff.mp hdeny
    obtain ⟨x, hx, htakes⟩ := exists_takesEffect ⟨v, hv, hheld⟩
    rcases of_head?_effects (takesEffect_iff.mp ⟨hx, htakes⟩).1 with h | h
    · exact ⟨x, hx, htakes, h.1⟩
    · exact absurd h.2.1 hdeny

theorem exists_takesEffect_grant_iff : (∃ x ∈ told verdicts, x.2 = .takesEffect ∧ x.1.rule.effect = .grant) ↔
    effects .deny verdicts = [] ∧ effects .grant verdicts ≠ [] := by
  constructor
  · rintro ⟨x, hx, htakes, heffect⟩
    rcases of_head?_effects (takesEffect_iff.mp ⟨hx, htakes⟩).1 with h | h
    · cases heffect.symm.trans h.1
    · exact h.2
  · rintro ⟨hdeny, hgrant⟩
    obtain ⟨v, hv, hheld, -⟩ := effects_ne_nil_iff.mp hgrant
    obtain ⟨x, hx, htakes⟩ := exists_takesEffect ⟨v, hv, hheld⟩
    rcases of_head?_effects (takesEffect_iff.mp ⟨hx, htakes⟩).1 with h | h
    · exact absurd hdeny h.2
    · exact ⟨x, hx, htakes, h.1⟩

end Verdict

namespace Diagnosis

/-- The diagnosis tells about all policies that were tried. Those that failed their conditions are told so, and if any
held, then just one of them takes effect: a denial, if there is one. That is the reason of the decision. -/
structure Tells (d : Diagnosis) (verdicts : List (Verdict Policy)) (told : List (Verdict Policy × Outcome)) : Prop where
  policies : d.policies = told.map fun x => .ofPolicy x.1.rule x.2 x.2.result
  complete : (told.map Prod.fst).Perm verdicts
  failed : ∀ x ∈ told, x.2 = .conditionFailed ↔ x.1.held = false
  single : (told.filter (·.2 = .takesEffect)).length = if ∃ v ∈ verdicts, v.held = true then 1 else 0
  strict : ∀ x ∈ told, x.2 = .takesEffect →
    (x.1.rule.effect = .deny ↔ ∃ v ∈ verdicts, v.held = true ∧ v.rule.effect = .deny)
  denied : d.reason = .denyPolicyFound ↔ ∃ x ∈ told, x.2 = .takesEffect ∧ x.1.rule.effect = .deny
  granted : d.reason = .grantPolicyFound ↔ ∃ x ∈ told, x.2 = .takesEffect ∧ x.1.rule.effect = .grant
  allowed : d.allowed = true ↔ d.reason = .grantPolicyFound

variable {d : Diagnosis} {verdicts : List (Verdict Policy)}

theorem map_told : (Verdict.told verdicts).map (fun x => DiagnosedPolicy.ofPolicy x.1.rule x.2 x.2.result) =
    ((Verdict.failures verdicts).map (·.rule)).map (DiagnosedPolicy.ofPolicy · .conditionFailed (some false)) ++
      matched ((Verdict.effects .grant verdicts).map (·.rule)) ((Verdict.effects .deny verdicts).map (·.rule)) := by
  rw [Verdict.told, List.map_append, Verdict.tell, List.map_map, List.map_map, matched, ← List.map_append,
    Verdict.ranked]
  refine congrArg₂ _ rfl ?_
  cases Verdict.effects .deny verdicts ++ Verdict.effects .grant verdicts with
  | nil => rfl
  | cons first later =>
    rw [List.map_cons, List.map_cons, Verdict.tell, List.map_map]
    dsimp only
    rw [List.map_map]
    rfl

/-- What is told accounts for the decision. -/
theorem tells_told (policies : d.policies = (Verdict.told verdicts).map fun x => .ofPolicy x.1.rule x.2 x.2.result)
    (decision : (⟨d.allowed, d.reason⟩ : Decision) =
      Decision.combine (Verdict.effects .grant verdicts).length (Verdict.effects .deny verdicts).length) :
    d.Tells verdicts (Verdict.told verdicts) := by
  have hallowed := congrArg Decision.allowed decision
  have hreason := congrArg Decision.reason decision
  dsimp only at hallowed hreason
  refine ⟨policies, Verdict.perm_map_fst_told, fun x hx => ?_, ?_, fun x hx htakes => ?_, ?_, ?_, ?_⟩
  · rcases List.mem_append.mp hx with hx | hx
    · obtain ⟨hx, houtcome⟩ := Verdict.mem_tell_iff.mp hx
      exact iff_of_true houtcome ((Bool.not_eq_true' _).mp (List.mem_filter.mp hx).2)
    · obtain ⟨hheld, houtcome⟩ := Verdict.of_mem_ranked hx
      rw [hheld]
      exact iff_of_false houtcome Bool.true_eq_false.mp
  · have hsome := Verdict.exists_head?_effects verdicts
    rw [Verdict.filter_told]
    cases hhead : (Verdict.effects .deny verdicts ++ Verdict.effects .grant verdicts).head? with
    | none =>
      rw [hhead] at hsome
      rw [if_neg fun h => nomatch (hsome.mpr h).choose_spec]
      rfl
    | some v =>
      rw [if_pos (hsome.mp ⟨v, hhead⟩)]
      rfl
  · rw [← Verdict.effects_ne_nil_iff]
    rcases Verdict.of_head?_effects (Verdict.takesEffect_iff.mp ⟨hx, htakes⟩).1 with
      ⟨heffect, hdeny⟩ | ⟨heffect, hdeny, -⟩
    · exact iff_of_true heffect hdeny
    · rw [heffect]
      exact iff_of_false (by decide) (not_not.mpr hdeny)
  · rw [Verdict.exists_takesEffect_deny_iff, hreason, Decision.combine_eq_deny_iff, List.length_pos_iff]
  · rw [Verdict.exists_takesEffect_grant_iff, hreason, Decision.combine_eq_grant_iff, List.length_pos_iff,
      List.length_eq_zero_iff]
  · rw [hallowed, hreason, Decision.allowed_combine_iff]

end Diagnosis

end Report

namespace Inquiry
variable {w : Surroundings σ} {q : Inquiry} {t : Session σ}

/-- What was tried are the policies that concern the request, each of them once. -/
structure Complete (q : Inquiry) (presented : List String) (verdicts : List (Verdict Policy)) : Prop where
  once : (verdicts.map Verdict.key).Nodup
  tried : ∀ service p, (∃ v ∈ verdicts, v.service = service ∧ v.rule = p) ↔ service ∈ q.services ∧
    service.policies.get? p.id = some p ∧ p.Concerns presented q.resource q.action

section Orderly
variable (orderly : ∀ service ∈ q.services, service.Orderly)
include orderly

theorem complete_tryPolicies (names : (q.services.map (·.name)).Nodup) (presented : List String) :
    q.Complete presented (q.tryPolicies w presented (some (q.resource, q.action)) t).1 := by
  have hsound (service : LoadedService) (hs : service ∈ q.services) := (orderly service hs).policies.sound
  refine ⟨?_, fun service p => ?_⟩
  · refine Verdict.nodup_keys names (fun service hs => ?_) map_origin_tryPolicies
    exact (hsound service hs).nodup_related presented (some q.resource) _
  · refine (Verdict.exists_mem_iff map_origin_tryPolicies).trans (and_congr_right fun hs => ?_)
    rw [mem_candidates_some_iff (hsound service hs), mem_candidates_iff (hsound service hs), Policy.Addresses,
      Policy.Indexed, Policy.Concerns]
    grind

theorem hasNoPolicies_eq_false_iff : q.hasNoPolicies = false ↔
    ∃ service ∈ q.services, ∃ p, service.policies.get? p.id = some p := by
  rw [← Bool.not_eq_true, hasNoPolicies, List.all_eq_true]
  simp only [not_forall, exists_prop]
  refine exists_congr fun service => and_congr_right fun hs => ?_
  have hsound := (orderly service hs).policies.sound
  rw [hsound.isEmpty_iff]
  simp only [not_forall, not_not, Dict.mem_iff]
  constructor
  · rintro ⟨id, p, hp⟩
    have hid : p.id = id := hsound.ids id p hp
    exact ⟨p, hid ▸ hp⟩
  · rintro ⟨p, hp⟩
    exact ⟨p.id, p, hp⟩

theorem tryPolicies_of_hasNoPolicies (hnone : q.hasNoPolicies = true) (presented : List String)
    (request : Option (String × String)) : (q.tryPolicies w presented request t).1 = [] := by
  have hcandidates : q.allCandidates presented request = [] := by
    rw [allCandidates, List.flatMap_eq_nil_iff]
    intro service hs
    rw [List.map_eq_nil_iff, List.eq_nil_iff_forall_not_mem]
    intro p hp
    have hp := (orderly service hs).policies.sound.get?_of_mem_related (List.mem_filter.mp hp).1
    have hsome := (hasNoPolicies_eq_false_iff orderly).mpr ⟨service, hs, p, hp⟩
    cases hnone.symm.trans hsome
  rw [tryPolicies, hcandidates]
  rfl

/-- A diagnosis tells about what it tries. -/
theorem tells_decide (request : Request) :
    let d := (q.decide w request t).1
    let roles := q.roles w t
    let verdicts := (q.tryPolicies w (q.principals ++ d.grantedRoles.map Role.principal) (some (q.resource, q.action))
      roles.2).1
    d.Tells verdicts (Verdict.told verdicts) ∧ (q.hasNoPolicies = false → d.grantedRoles = roles.1.toList) := by
  intro d roles verdicts
  cases hnone : q.hasNoPolicies with
  | true =>
    have hd : d = {
        request := { request with subject := q.subject }
        attributes := q.attributes
        reason := .noApplicablePolicies } := by
      dsimp only [d]
      rw [decide, hnone]
      rfl
    have hverdicts : verdicts = [] := tryPolicies_of_hasNoPolicies orderly hnone _ _
    rw [hverdicts, hd]
    exact ⟨Diagnosis.tells_told rfl rfl, fun h => absurd h (by decide)⟩
  | false =>
    have hd : d = _ := decide_of_policies hnone request
    have hroles : d.grantedRoles = roles.1.toList := congrArg Diagnosis.grantedRoles hd
    let m := (q.matchedPolicies w (q.principalsWith roles.1) (some (q.resource, q.action)) roles.2).1
    have hm : m = ⟨[] ++ (Verdict.effects .grant verdicts).map (·.rule),
        [] ++ (Verdict.effects .deny verdicts).map (·.rule),
        [] ++ (Verdict.failures verdicts).map (·.rule)⟩ := by
      rw [← Verdict.foldl_add verdicts {}]
      dsimp only [m, verdicts]
      rw [matchedPolicies_eq_tryPolicies, hroles]
      rfl
    have hpolicies : d.policies = m.failed.map (DiagnosedPolicy.ofPolicy · .conditionFailed (some false)) ++
        Diagnosis.matched m.granted m.denied := congrArg Diagnosis.policies hd
    have hdecision : (⟨d.allowed, d.reason⟩ : Decision) = Decision.combine m.granted.length m.denied.length :=
      congrArg (fun d : Diagnosis => (⟨d.allowed, d.reason⟩ : Decision)) hd
    rw [hm] at hpolicies hdecision
    refine ⟨Diagnosis.tells_told (hpolicies.trans Diagnosis.map_told.symm) ?_, fun _ => hroles⟩
    rw [hdecision, List.nil_append, List.nil_append, List.length_map, List.length_map]

end Orderly

/-- A decision needs no report. -/
theorem agree_judge (request : Request) : Agree Session.Matches
    (do let d ← q.decide w request; return (⟨d.allowed, d.reason⟩ : Decision)) (q.judge w) := by
  rw [decide, judge]
  split
  · intro s t h
    exact ⟨rfl, h⟩
  · rw [bind_assoc]
    refine agree_roles_quiet.bind fun roles => ?_
    rw [matchedPolicies_eq_tryPolicies, bind_assoc, bind_assoc]
    refine Agree.bind (Agree.mapM fun x _ => (agree_holds_quiet x.1 .policy x.1.policies x.2).bind fun _ => .pure _)
      fun verdicts => ?_
    rw [pure_bind, Verdict.foldl_add]
    dsimp only
    rw [Verdict.filter_holding, Verdict.filter_holding]
    exact fun s t h => ⟨rfl, h⟩

end Inquiry

namespace Evaluator
variable {e : Evaluator σ} {now : ClockTime} {request : Request}

/-- What is noted about role policies shows in an answer only if it is read. -/
theorem answer_eq_of_agree {f g : Surroundings σ → Inquiry → Evaluation σ α}
    (h : ∀ q, Agree Session.Matches (f ⟨e.resolve, now.seconds⟩ q) (g ⟨e.resolve, now.seconds⟩ q)) :
    e.answer now request f = e.answer now request g := by
  funext ⟨resolver, r⟩
  rw [answer, answer]
  cases r.inquire e.asserter now request with
  | error err => rfl
  | ok q =>
    obtain ⟨hresult, hresolver, hresults, hcompiled⟩ := h q { resolver, results := r.results }
      { resolver, results := r.results } ⟨rfl, rfl, rfl⟩
    dsimp only
    generalize f ⟨e.resolve, now.seconds⟩ q { resolver, results := r.results } = x,
      g ⟨e.resolve, now.seconds⟩ q { resolver, results := r.results } = y at hresult hresolver hresults hcompiled ⊢
    obtain ⟨a, s⟩ := x
    obtain ⟨b, t⟩ := y
    dsimp only at hresult hresolver hresults hcompiled ⊢
    rw [hresult, hresolver, hresults, hcompiled]

/-- Decisions and roles are those of evaluations without a report. -/
theorem isAllowed_eq_judge (e : Evaluator σ) (now : ClockTime) (request : Request) :
    e.isAllowed now request = e.answer now request fun w q => q.judge w := by
  have hrun : e.isAllowed now request = e.answer now request fun w q => do
      let d ← q.decide w request
      return ⟨d.allowed, d.reason⟩ := by
    funext ⟨resolver, r⟩
    let run := e.answer now request (fun w q => q.decide w request) (resolver, r)
    have hproject : e.isAllowed now request (resolver, r) =
        (run.1.map fun d : Diagnosis => (⟨d.allowed, d.reason⟩ : Decision), run.2) := rfl
    rw [hproject]
    dsimp only [run]
    rw [answer, answer]
    cases r.inquire e.asserter now request with
    | error err => rfl
    | ok q => rfl
  rw [hrun]
  exact answer_eq_of_agree fun _ => Inquiry.agree_judge request

end Evaluator

namespace Inquiry
variable {w : Surroundings σ} {q : Inquiry}

/-- What is found out about a policy is the truth about it. -/
theorem Certain.held_tryPolicies {I : Session σ → Prop} {roles : NameSet} {truth : LoadedService → Policy → Bool}
    (h : q.Certain w I roles truth) {s : Session σ} (hs : I s) (presented : List String)
    (request : Option (String × String)) :
    ∀ v ∈ (q.tryPolicies w presented request s).1, v.held = truth v.service v.rule := by
  refine forall_mem_mapM (I := I) (fun x hx s hs => ?_) hs
  obtain ⟨hservice, hp⟩ := mem_allCandidates_iff.mp hx
  have hp := (h.orderly x.1 hservice).policies.sound.get?_of_mem_related (List.mem_filter.mp hp).1
  exact h.holds x.1 hservice x.2 hp s hs

section Settled
variable {answers value : FunctionDefinition → List Json → Except Error Json} {used : FunctionDefinition → Prop}
  {times : Int → Prop} (pure : w.resolve.IsPure answers) (alike : AnswerAlike answers used) (timely : times w.now)
include pure alike timely

/-- While the answers of calls are settled, rules are found to hold alike, and nothing is noted. -/
theorem alike_holds [Rule α] (defined : ∀ d, q.functions.Defines d → used d) {cache : RuleCache α}
    (hcache : ∀ d, cache.Uses d → used d) {a : α} (ha : cache.get? (Rule.id a) = some a) (service : LoadedService)
    (kind : RuleKind) : Agree (Session.Alike (Settled w.resolve used times value)) (q.holds w service kind cache a)
      (q.holds w service kind cache a) := by
  rintro s t ⟨hs, ht, hnoted⟩
  have hsteady : Steady (fun s : Session σ => Settled w.resolve used times value s.calls)
      (q.holds w service kind cache a) := steady_holds pure alike timely defined hcache ha service kind
  obtain ⟨b, hb⟩ := hsteady
  refine ⟨(hb s hs).1.trans (hb t ht).1.symm, (hb s hs).2, (hb t ht).2, ?_⟩
  rw [rolePolicies_holds, rolePolicies_holds, hnoted]

variable (orderly : ∀ service ∈ q.services, service.Orderly) (uses : ∀ d, q.Uses d → used d)
include orderly uses

theorem alike_roles : Agree (Session.Alike (Settled w.resolve used times value)) (q.roles w) (q.roles w) := by
  refine agree_roles_of (fun service hs principals seen p hp => ?_) fun s t d h => ⟨h.1, h.2.1, congrArg (· ++ _) h.2.2⟩
  have hp := (orderly service hs).rolePolicies.sound.get?_of_mem_related (List.mem_filter.mp hp).1
  exact alike_holds pure alike timely (fun d hd => uses d (.inl hd)) (fun d hd => uses d (.inr ⟨service, hs, .inr hd⟩))
    hp service .rolePolicy

theorem alike_decide (request : Request) : Agree (Session.Alike (Settled w.resolve used times value))
    (q.decide w request) (q.decide w request) := by
  refine agree_decide_of (alike_roles pure alike timely orderly uses) (fun principals request => ?_)
    (fun _ _ h => h.2.2) request
  refine agree_matchedPolicies_of fun service hs p hp => ?_
  have hp := (orderly service hs).policies.sound.get?_of_mem_related (List.mem_filter.mp hp).1
  exact alike_holds pure alike timely (fun d hd => uses d (.inl hd)) (fun d hd => uses d (.inr ⟨service, hs, .inl hd⟩))
    hp service .policy

end Settled
end Inquiry

namespace Evaluator
variable {e : Evaluator σ} {r : Registry} {now : ClockTime} {resolver : σ}

/-- Asks about requests one after the other, at one time. -/
def askAll (e : Evaluator σ) (now : ClockTime) (questions : List (Question × Request)) (s : σ × Registry) :
    σ × Registry :=
  questions.foldl (fun s x => e.ask x.1 now x.2 s) s

section Settled
variable {answers value : FunctionDefinition → List Json → Except Error Json} (pure : e.resolve.IsPure answers)
  (orderly : r.Orderly) (alike : AnswerAlike answers r.Uses)
  (hstart : Settled e.resolve r.Uses (· = now.seconds) value (resolver, r.results))
include pure orderly alike hstart

/-- Questions change nothing that is loaded, and the answers of calls stay settled. -/
theorem settled_askAll (questions : List (Question × Request)) : ∃ t results updates,
    e.askAll now questions (resolver, r) = (t, { r with results, updates }) ∧
      Settled e.resolve r.Uses (· = now.seconds) value (t, results) := by
  let kept (s : σ × Registry) : Prop := ∃ t results updates, s = (t, { r with results, updates }) ∧
    Settled e.resolve r.Uses (· = now.seconds) value (t, results)
  refine List.foldlRecOn (motive := kept) questions _ ⟨_, _, _, rfl, hstart⟩ ?_
  rintro _ ⟨t, results, updates, rfl, hsettled⟩ ⟨question, request⟩ -
  let w : Surroundings σ := ⟨e.resolve, now.seconds⟩
  let times (t : Int) : Prop := t = now.seconds
  have timely : times w.now := rfl
  have huses (q : Inquiry) (hq : r.inquire e.asserter now request = .ok q) :
      (∀ service ∈ q.services, service.Orderly) ∧ ∀ d, q.Uses d → r.Uses d :=
    ⟨fun service hs => ((orderly.reads hq).services service hs).2, fun _ hd => (orderly.reads hq).uses hd⟩
  obtain ⟨u, hu, hask⟩ := ask_session (e := e) (s := (t, { r with results, updates }))
    (I := fun u => Settled e.resolve r.Uses (· = now.seconds) value u.calls) hsettled question
    (fun q hq => Inquiry.settled_roles (w := w) pure alike timely (huses q hq).1 (huses q hq).2)
    fun q hq => Inquiry.settled_matchedPolicies (w := w) pure alike timely (huses q hq).1 (huses q hq).2
  exact ⟨_, _, _, hask, hu⟩

/-- What agrees with itself is answered alike, whatever was asked before. -/
theorem answer_askAll {f : Surroundings σ → Inquiry → Evaluation σ α} (request : Request)
    (hf : ∀ q, (∀ service ∈ q.services, service.Orderly) → (∀ d, q.Uses d → r.Uses d) →
      Agree (Session.Alike (Settled e.resolve r.Uses (· = now.seconds) value)) (f ⟨e.resolve, now.seconds⟩ q)
        (f ⟨e.resolve, now.seconds⟩ q)) (questions : List (Question × Request)) :
    (e.answer now request f (e.askAll now questions (resolver, r))).1 = (e.answer now request f (resolver, r)).1 := by
  obtain ⟨t, results, updates, hasked, hsettled⟩ := settled_askAll pure orderly alike hstart questions
  have hinquire : ({ r with results, updates } : Registry).inquire e.asserter now request =
      r.inquire e.asserter now request := rfl
  rw [hasked, answer, answer, hinquire]
  cases hq : r.inquire e.asserter now request with
  | error err => rfl
  | ok q =>
    have hagree := hf q (fun service hs => ((orderly.reads hq).services service hs).2)
      (fun _ hd => (orderly.reads hq).uses hd) { resolver := t, results } { resolver, results := r.results }
      ⟨hsettled, hstart, rfl⟩
    exact congrArg Except.ok hagree.1

end Settled

end Evaluator

/-- Everybody may use a library where Ann may read, unless it is to lend. -/
def desk : Service where
  name := "library"
  policies := [lendable, { id := "2", effect := .deny, condition := some "request_action == 'lend'" },
    { id := "3", effect := .grant }]

end Turnstile

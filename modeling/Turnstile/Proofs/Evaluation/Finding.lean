import Turnstile.Proofs.Evaluation.Agreement
import Turnstile.Proofs.Evaluation.Subtraction

/-! What questions find out while the answers of calls are settled. The roles and the truth of conditions are then
the same for all questions: the decision and the permissions of an inquiry follow from the live policies that they
leave, for the resource or for all resources. -/
namespace Turnstile
variable {σ : Type}

/-- A policy names no principal or one that is presented, and its principals match as a whole. -/
def Policy.Addresses (presented : List String) (p : Policy) : Prop :=
  (p.principals.flatten = [] ∨ ∃ a ∈ presented, a ∈ p.principals.flatten) ∧
    matchesPrincipals presented p.principals = true

instance (presented : List String) (p : Policy) : Decidable (p.Addresses presented) :=
  inferInstanceAs (Decidable (_ ∧ _))

/-- The index finds the policy for the resource. -/
def Policy.Indexed (resource : String) (p : Policy) : Prop :=
  p.permissions = [] ∨ ∃ g ∈ p.permissions, g.Covers resource

namespace Inquiry
variable {w : Surroundings σ} {q : Inquiry} {presented : List String} {p : Policy}

theorem mem_candidates_iff {service : LoadedService} (h : service.policies.Sound) :
    p ∈ candidates service presented none ↔
      service.policies.get? p.id = some p ∧ p.Addresses presented := by
  rw [candidates, List.mem_filter, Option.map_none, h.mem_values_related, RuleCache.reaches_policy_iff,
    Policy.Addresses, Option.all_none, Bool.and_true]
  simp only [Option.not_mem_none, false_imp_iff, implies_true, and_true, and_assoc]
  exact Iff.rfl

/-- For a request there remain the candidates that the index finds and that cover it. -/
theorem mem_candidates_some_iff {service : LoadedService} (h : service.policies.Sound)
    {resource action : String} : p ∈ candidates service presented (some (resource, action)) ↔
      p ∈ candidates service presented none ∧ p.Indexed resource ∧
        p.coversRequest resource action = true := by
  rw [mem_candidates_iff h, candidates, List.mem_filter, Option.map_some, h.mem_values_related,
    RuleCache.reaches_policy_iff, Policy.Addresses, Policy.Indexed, Option.all_some, Bool.and_eq_true]
  simp only [Option.mem_some_iff, forall_eq', RuleCache.covers_policy_iff]
  have hid : Rule.id p = p.id := rfl
  rw [hid]
  tauto

/-- From all states of an invariant the roles come out alike, and so does whether a live policy holds. -/
structure Certain (w : Surroundings σ) (q : Inquiry) (I : Session σ → Prop) (roles : NameSet)
    (truth : LoadedService → Policy → Bool) : Prop where
  orderly : ∀ service ∈ q.services, service.Orderly
  roles : ∀ s, I s → (q.roles w s).1 = roles ∧ I (q.roles w s).2
  holds : ∀ service ∈ q.services, ∀ p, service.policies.get? p.id = some p → ∀ s, I s →
    (q.holds w service .policy service.policies p s).1 = truth service p ∧
      I (q.holds w service .policy service.policies p s).2

/-- The candidates that hold. -/
def found (q : Inquiry) (truth : LoadedService → Policy → Bool) (presented : List String)
    (request : Option (String × String)) : List Policy :=
  q.services.flatMap fun service => (candidates service presented request).filter (truth service)

namespace Certain
variable {I : Session σ → Prop} {roles : NameSet} {truth : LoadedService → Policy → Bool} {s : Session σ}
  (h : q.Certain w I roles truth)
include h

/-- A policy whose condition is fresh holds if its condition is true, whatever is kept for it. -/
theorem truth_eq {service : LoadedService} (hservice : service ∈ q.services) (fresh : service.Fresh q.functions)
    (hp : service.policies.get? p.id = some p) (hs : I s) :
    truth service p = (Rule.holds w q.functions q.attributes p s.calls).1 := by
  have hcompiled (expression : String) (k : CompiledCondition) (he : Rule.condition? p = some expression)
      (hk : service.policies.condition? (Rule.id p) = some k) :
      CompiledCondition.compile expression q.functions = .ok k := by
    obtain ⟨hexpression, hfunctions⟩ := fresh.policies p.id k hk p expression hp he
    rw [← hexpression, ← hfunctions]
    exact k.compile_self
  obtain ⟨htruth, -⟩ := h.holds service hservice p hp s hs
  obtain ⟨t, hrun, -, -⟩ := holds_of_compiled (w := w) hcompiled service .policy s
  rw [← htruth, hrun]

theorem mem_found_iff : p ∈ q.found truth presented none ↔ ∃ service ∈ q.services,
    service.policies.get? p.id = some p ∧ p.Addresses presented ∧ truth service p = true := by
  simp only [found, List.mem_flatMap, List.mem_filter]
  refine exists_congr fun service => and_congr_right fun hs => ?_
  rw [mem_candidates_iff (h.orderly service hs).policies.sound, and_assoc]

theorem mem_found_some_iff {resource action : String} :
    p ∈ q.found truth presented (some (resource, action)) ↔ p ∈ q.found truth presented none ∧
      p.Indexed resource ∧ p.coversRequest resource action = true := by
  simp only [found, List.mem_flatMap, List.mem_filter]
  constructor
  · rintro ⟨service, hs, hp, htrue⟩
    obtain ⟨hp, hrequest⟩ := (mem_candidates_some_iff (h.orderly service hs).policies.sound).mp hp
    exact ⟨⟨service, hs, hp, htrue⟩, hrequest⟩
  · rintro ⟨⟨service, hs, hp, htrue⟩, hrequest⟩
    exact ⟨service, hs, (mem_candidates_some_iff (h.orderly service hs).policies.sound).mpr ⟨hp, hrequest⟩,
      htrue⟩

private theorem foldlM_candidates {service : LoadedService} (hservice : service ∈ q.services) {l : List Policy}
    (hl : ∀ p ∈ l, service.policies.get? p.id = some p) {m : Matched} {before : List Policy}
    (hm : m.Sorts before) (hs : I s) :
    (l.foldlM (sort w q service) m s).1.Sorts (before ++ l.filter (truth service)) ∧
      I (l.foldlM (sort w q service) m s).2 := by
  induction l generalizing m before s with
  | nil =>
    rw [List.filter_nil, List.append_nil]
    exact ⟨hm, hs⟩
  | cons p l ih =>
    obtain ⟨hheld, hstate⟩ := h.holds service hservice p (hl p List.mem_cons_self) s hs
    have hadded := hm.add p (truth service p)
    obtain ⟨hsorts, hlast⟩ := ih (fun p hp => hl p (List.mem_cons_of_mem _ hp)) hadded hstate
    have hstep : (p :: l).foldlM (sort w q service) m s = l.foldlM (sort w q service)
        (m.add p (truth service p)) (q.holds w service .policy service.policies p s).2 := by
      rw [← hheld]
      rfl
    rw [hstep]
    refine ⟨?_, hlast⟩
    rw [List.append_assoc] at hsorts
    rw [List.filter_cons]
    cases hp : truth service p with
    | true =>
      rw [hp] at hsorts
      exact hsorts
    | false =>
      rw [hp] at hsorts
      exact hsorts

/-- To ask for policies is to sort those that are found. -/
theorem sorts_matchedPolicies (presented : List String) (request : Option (String × String)) (hs : I s) :
    (q.matchedPolicies w presented request s).1.Sorts (q.found truth presented request) := by
  have key (services : List LoadedService) (hsub : ∀ service ∈ services, service ∈ q.services) (m : Matched)
      (before : List Policy) (hm : m.Sorts before) (s : Session σ) (hs : I s) :
      (services.foldlM (fun m service =>
        (candidates service presented request).foldlM (sort w q service) m) m s).1.Sorts
        (before ++ services.flatMap fun service =>
          (candidates service presented request).filter (truth service)) := by
    induction services generalizing m before s with
    | nil =>
      rw [List.flatMap_nil, List.append_nil]
      exact hm
    | cons service services ih =>
      have hservice := hsub service List.mem_cons_self
      have hids (p : Policy) (hp : p ∈ candidates service presented request) :
          service.policies.get? p.id = some p :=
        (h.orderly service hservice).policies.sound.get?_of_mem_related (List.mem_filter.mp hp).1
      obtain ⟨hsorts, hstate⟩ := h.foldlM_candidates hservice hids hm hs
      have hrest := ih (fun service hs => hsub service (List.mem_cons_of_mem _ hs)) _ _ hsorts _ hstate
      rw [List.append_assoc] at hrest
      rw [List.flatMap_cons]
      exact hrest
  exact key q.services (fun _ hs => hs) {} [] ⟨rfl, rfl⟩ s hs

/-- Nothing is found where there are no policies. -/
theorem found_eq_nil (hnone : q.hasNoPolicies = true) (presented : List String)
    (request : Option (String × String)) : q.found truth presented request = [] := by
  rw [found, List.flatMap_eq_nil_iff]
  intro service hs
  rw [List.eq_nil_iff_forall_not_mem]
  intro p hp
  rw [hasNoPolicies, List.all_eq_true] at hnone
  have hsound := (h.orderly service hs).policies.sound
  have hfound := hsound.get?_of_mem_related (List.mem_filter.mp (List.mem_filter.mp hp).1).1
  exact hsound.isEmpty_iff.mp (hnone service hs) _ (Dict.mem_of_get? hfound)

/-- A decision combines what is found for the request. -/
theorem decide_eq (request : Request) (hs : I s) :
    let found := q.found truth (q.principalsWith roles) (some (q.resource, q.action))
    let d := (q.decide w request s).1
    (⟨d.allowed, d.reason⟩ : Decision) = Decision.combine (found.filter fun p => p.effect = .grant).length
      (found.filter fun p => p.effect = .deny).length := by
  intro found d
  by_cases hn : q.hasNoPolicies = true
  · have hnothing : found = [] := h.found_eq_nil hn _ _
    rw [hnothing]
    simp only [d, Inquiry.decide, hn, if_true]
    rfl
  · obtain ⟨hroles, hstate⟩ := h.roles s hs
    have hsorts := h.sorts_matchedPolicies (q.principalsWith roles) (some (q.resource, q.action)) hstate
    rw [← hsorts.granted, ← hsorts.denied, ← hroles]
    simp only [d, Inquiry.decide, hn]
    rfl

/-- The permissions are those that are reported for what is found without a request. -/
theorem permissions_eq (hs : I s) :
    (q.permissions w s).1 = reported (q.found truth (q.principalsWith roles) none) := by
  rw [permissions]
  split
  · next hn =>
    rw [h.found_eq_nil hn]
    rfl
  · obtain ⟨hroles, hstate⟩ := h.roles s hs
    have hsorts := h.sorts_matchedPolicies (q.principalsWith roles) none hstate
    rw [reported, ← hsorts.granted, ← hsorts.denied, ← hroles]
    have hlast (m : Matched) (t : Session σ) :
        ((if m.denied.any (·.permissions.isEmpty) then pure [] else
          pure (Permission.subtractAll ((m.granted.flatMap (·.permissions)).filterMap onResource)
            (m.denied.flatMap (·.permissions))) : Evaluation σ (List Permission)) t).1 =
          if m.denied.any (·.permissions.isEmpty) then [] else
            Permission.subtractAll ((m.granted.flatMap (·.permissions)).filterMap onResource)
              (m.denied.flatMap (·.permissions)) := by
      split
      · rfl
      · rfl
    exact hlast _ _

end Certain

section Settled
variable {answers value : FunctionDefinition → List Json → Except Error Json}
  {used : FunctionDefinition → Prop} {times : Int → Prop} (pure : w.resolve.IsPure answers)
  (alike : AnswerAlike answers used) (timely : times w.now) (orderly : ∀ service ∈ q.services, service.Orderly)
  (uses : ∀ d, q.Uses d → used d)
include pure alike timely orderly uses

/-- While the answers of calls are settled, all questions find out the same. -/
theorem certain {start : Session σ} (hstart : Settled w.resolve used times value start.calls) :
    q.Certain w (fun s => Settled w.resolve used times value s.calls) (q.roles w start).1
      fun service p => (q.holds w service .policy service.policies p start).1 := by
  let I : Session σ → Prop := fun s => Settled w.resolve used times value s.calls
  have hagree {α : Type} [Rule α] {service : LoadedService} {cache : RuleCache α}
      (hcache : ∀ d, cache.Uses d → used d) {a : α} (ha : cache.get? (Rule.id a) = some a) (kind : RuleKind) :
      Agree (fun s t => I s ∧ I t) (q.holds w service kind cache a) (q.holds w service kind cache a) := by
    have hsteady : Steady I (q.holds w service kind cache a) :=
      steady_holds pure alike timely (fun d hd => uses d (.inl hd)) hcache ha service kind
    exact hsteady.agree
  have hroles : Agree (fun s t => I s ∧ I t) (q.roles w) (q.roles w) := by
    refine agree_roles_of (fun service hs principals seen p hp => ?_) fun _ _ _ hst => hst
    have hp := (orderly service hs).rolePolicies.sound.get?_of_mem_related (List.mem_filter.mp hp).1
    exact hagree (fun d hd => uses d (.inr ⟨service, hs, .inr hd⟩)) hp .rolePolicy
  refine ⟨orderly, fun s hs => ?_, fun service hservice p hp s hs => ?_⟩
  · obtain ⟨hsame, hstate, -⟩ := hroles s start ⟨hs, hstart⟩
    exact ⟨hsame, hstate⟩
  · obtain ⟨hsame, hstate, -⟩ := hagree (fun d hd => uses d (.inr ⟨service, hservice, .inl hd⟩)) hp .policy s
      start ⟨hs, hstart⟩
    exact ⟨hsame, hstate⟩

end Settled
end Inquiry
end Turnstile

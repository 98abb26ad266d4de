import Turnstile.Evaluation.Evaluator
import Turnstile.Proofs.Evaluation.Inquiry
import Turnstile.Proofs.Registry.Freshness

/-! What evaluations compile. The conditions that an evaluation adds to the updates that wait belong to live
rules without a condition kept, and are fresh. -/
namespace Turnstile
variable {σ τ α β : Type}

/-- A computation keeps a property of its state. -/
def Preserves (I : τ → Prop) (x : StateM τ α) : Prop := ∀ s, I s → I (x s).2

namespace Preserves
variable {I : τ → Prop}

protected theorem pure (a : α) : Preserves I (pure a) := fun _ h => h

protected theorem bind {x : StateM τ α} {f : α → StateM τ β} (hx : Preserves I x)
    (hf : ∀ a, Preserves I (f a)) : Preserves I (x >>= f) :=
  fun s h => hf (x s).1 (x s).2 (hx s h)

protected theorem modify {f : τ → τ} (h : ∀ s, I s → I (f s)) :
    Preserves I (modify f : StateM τ PUnit) := h

protected theorem foldlM {f : β → α → StateM τ β} {l : List α}
    (h : ∀ b, ∀ a ∈ l, Preserves I (f b a)) (b : β) : Preserves I (l.foldlM f b) := by
  induction l generalizing b with
  | nil => exact .pure b
  | cons a l ih =>
    rw [List.foldlM_cons]
    exact (h b a List.mem_cons_self).bind (ih fun b a ha => h b a (List.mem_cons_of_mem _ ha))

variable {source : RoleSource (StateM τ)}
  (h : ∀ principals seen, Preserves I (source.query principals seen))
include h

private theorem expand (rounds : Nat) (s : RoleResolution) (fresh : List String) :
    Preserves I (s.expand source rounds fresh) := by
  induction rounds generalizing s fresh with
  | zero => exact .pure s
  | succ rounds ih =>
    cases fresh with
    | nil => exact .pure s
    | cons role fresh => exact (h _ _).bind fun _ => ih _ _

/-- The resolution of roles changes a state by its queries only. -/
theorem resolve (principals : List String) : Preserves I (source.resolve principals) := by
  refine Preserves.bind ?_ fun _ => .pure _
  exact (h _ _).bind fun _ => (expand h _ _ _).bind fun _ => (h _ _).bind fun _ => .pure _

end Preserves

/-- The condition belongs to a live rule that has none kept, and was compiled for the functions. -/
def RuleCache.Offers [Rule α] (functions : FunctionTable) (c : RuleCache α) (id : String)
    (k : CompiledCondition) : Prop :=
  c.condition? id = none ∧ ∃ a, c.get? id = some a ∧ compiledCondition? functions a = some k

def LoadedService.Offers (functions : FunctionTable) (s : LoadedService) (u : ConditionUpdate) : Prop :=
  match u.kind with
  | .policy => s.policies.Offers functions u.id u.condition
  | .rolePolicy => s.rolePolicies.Offers functions u.id u.condition

/-- The update is what an evaluation of the registry may compile. -/
def Registry.Offers (r : Registry) (u : ConditionUpdate) : Prop :=
  ∃ s, r.service? u.service = some s ∧ s.stamp = u.stamp ∧ s.Offers r.functions u

theorem RuleCache.Offers.suits [Rule α] {functions : FunctionTable} {c : RuleCache α} {id : String}
    {k : CompiledCondition} (h : c.Offers functions id k) : c.Suits functions id k := by
  obtain ⟨-, a, ha, hk⟩ := h
  exact suits_of_compiled ha hk

/-- An update suits its rule when it is compiled. -/
theorem Registry.Offers.suits {r : Registry} {u : ConditionUpdate} (h : r.Offers u) : r.Suits u := by
  obtain ⟨s, hs, -, hu⟩ := h
  intro t ht _
  obtain rfl := Option.some.inj (hs.symm.trans ht)
  rw [LoadedService.Offers] at hu
  rw [LoadedService.Suits]
  cases hkind : u.kind with
  | policy =>
    rw [hkind] at hu
    exact hu.suits
  | rolePolicy =>
    rw [hkind] at hu
    exact hu.suits

/-- The inquiry looks at services of the registry, with its functions. -/
structure Inquiry.Reads (q : Inquiry) (r : Registry) : Prop where
  functions : q.functions = r.functions
  services : ∀ s ∈ q.services, r.service? s.name = some s ∧ s.Orderly

theorem Registry.Orderly.reads {r : Registry} (h : r.Orderly) {asserter : Option TokenAsserter}
    {now : ClockTime} {request : Request} {q : Inquiry}
    (hq : r.inquire asserter now request = .ok q) : q.Reads r := by
  have hfound {name : String} {s : LoadedService} (hs : r.service? name = some s) :
      r.service? s.name = some s ∧ s.Orderly := by
    obtain ⟨rfl, ho⟩ := h name s hs
    exact ⟨hs, ho⟩
  obtain ⟨target, subject, htarget, -, rfl⟩ := Registry.of_inquire hq
  refine ⟨rfl, fun s hs => ?_⟩
  rcases List.mem_cons.mp hs with rfl | hs
  · exact hfound htarget
  · rw [Option.mem_toList] at hs
    split at hs
    · cases hs
    · exact hfound hs

/-- Everything compiled so far was offered. -/
def Session.Offered (r : Registry) (s : Session σ) : Prop := ∀ u ∈ s.compiled, r.Offers u

namespace Inquiry

section Preserves
variable {I : Session σ → Prop} {q : Inquiry} {w : Surroundings σ}

/-- To sort policies is to try them. -/
theorem preserves_matchedPolicies {principals : List String} {request : Option (String × String)}
    (h : ∀ service ∈ q.services, ∀ p ∈ candidates service principals request,
      Preserves I (q.holds w service .policy service.policies p)) :
    Preserves I (q.matchedPolicies w principals request) :=
  Preserves.foldlM (fun _ service hs => Preserves.foldlM (fun _ p hp =>
    (h service hs p hp).bind fun _ => .pure _) _) _

/-- To resolve roles is to try role policies and to note them. -/
theorem preserves_roles (h : ∀ service ∈ q.services, ∀ principals seen,
      ∀ p ∈ q.roleCandidates service principals seen,
        Preserves I (q.holds w service .rolePolicy service.rolePolicies p))
    (hnote : ∀ s d, I s → I { s with rolePolicies := s.rolePolicies ++ [d] }) :
    Preserves I (q.roles w) := by
  refine Preserves.resolve (fun principals seen => ?_) _
  refine Preserves.foldlM (fun _ service hs => Preserves.foldlM (fun _ p hp => ?_) _) _
  exact (h service hs principals seen p hp).bind fun held =>
    Preserves.bind (.modify fun s hs => hnote s _ hs) fun _ => .pure _

variable (hroles : Preserves I (q.roles w))
  (hpolicies : ∀ principals request, Preserves I (q.matchedPolicies w principals request))
include hroles hpolicies

theorem preserves_decide (request : Request) : Preserves I (q.decide w request) := by
  rw [Inquiry.decide]
  split
  · exact .pure _
  · exact hroles.bind fun _ => (hpolicies _ _).bind fun _ => Preserves.bind (fun _ hs => hs) fun _ => .pure _

theorem preserves_permissions : Preserves I (q.permissions w) := by
  rw [permissions]
  split
  · exact .pure _
  · refine hroles.bind fun _ => (hpolicies _ _).bind fun _ => ?_
    split
    · exact .pure _
    · exact .pure _

end Preserves

variable {r : Registry} {q : Inquiry} (w : Surroundings σ)

private theorem preserves_holdsCompiled (k : CompiledCondition) :
    Preserves (Session.Offered r) (q.holdsCompiled w k) := fun _ h => h

/-- Trying a rule compiles no condition but its own. -/
private theorem preserves_holds [Rule α] {cache : RuleCache α} {a : α} {service : LoadedService}
    {kind : RuleKind} (ha : cache.get? (Rule.id a) = some a)
    (hoffer : ∀ k, cache.Offers q.functions (Rule.id a) k →
      r.Offers ⟨service.name, service.stamp, kind, Rule.id a, k⟩) :
    Preserves (Session.Offered r) (q.holds w service kind cache a) := by
  rw [holds]
  cases he : Rule.condition? a with
  | none => exact .pure true
  | some expression =>
    cases hk : cache.condition? (Rule.id a) with
    | some k => exact preserves_holdsCompiled w k
    | none =>
      cases hc : CompiledCondition.compile expression q.functions with
      | error _ =>
        simp only [hc]
        exact .pure false
      | ok k =>
        simp only [hc]
        have hcompiled : compiledCondition? q.functions a = some k := by
          rw [compiledCondition?, he, Option.bind_some, hc]
          rfl
        refine Preserves.bind (.modify fun s hs u hu => ?_) fun _ => preserves_holdsCompiled w k
        rcases List.mem_append.mp hu with hu | hu
        · exact hs u hu
        · obtain rfl := List.mem_singleton.mp hu
          exact hoffer k ⟨hk, a, ha, hcompiled⟩

namespace Reads
variable (h : q.Reads r)
include h

theorem offered_matchedPolicies (principals : List String) (request : Option (String × String)) :
    Preserves (Session.Offered r) (q.matchedPolicies w principals request) := by
  refine Inquiry.preserves_matchedPolicies fun service hs p hp => ?_
  obtain ⟨hservice, ho⟩ := h.services service hs
  have hp := ho.policies.sound.get?_of_mem_related (List.mem_filter.mp hp).1
  refine preserves_holds w hp fun k hk => ?_
  rw [h.functions] at hk
  exact ⟨service, hservice, rfl, hk⟩

theorem offered_roles : Preserves (Session.Offered r) (q.roles w) := by
  refine Inquiry.preserves_roles (fun service hs principals seen p hp => ?_) fun _ _ hs => hs
  obtain ⟨hservice, ho⟩ := h.services service hs
  have hp := ho.rolePolicies.sound.get?_of_mem_related (List.mem_filter.mp hp).1
  refine preserves_holds w hp fun k hk => ?_
  rw [h.functions] at hk
  exact ⟨service, hservice, rfl, hk⟩

end Reads
end Inquiry

/-- What can be asked about a request. -/
inductive Question where
  | decision
  | diagnosis
  | roles
  | permissions

namespace Evaluator
variable (e : Evaluator σ)

def ask (question : Question) (now : ClockTime) (request : Request) (s : σ × Registry) : σ × Registry :=
  match question with
  | .decision => (e.isAllowed now request s).2
  | .diagnosis => (e.diagnose now request s).2
  | .roles => (e.grantedRoles now request s).2
  | .permissions => (e.grantedPermissions now request s).2

section Ask
variable {e : Evaluator σ} {s : σ × Registry} {now : ClockTime} {request : Request} {I : Session σ → Prop}
  (h : I { resolver := s.1, results := s.2.results })
include h

/-- An answer leaves the state of its session, and adds what it compiles to the updates that wait. Rules
and functions stay as they are. -/
private theorem answer_spec {f : Surroundings σ → Inquiry → Evaluation σ α}
    (hf : ∀ q, s.2.inquire e.asserter now request = .ok q → Preserves I (f ⟨e.resolve, now.seconds⟩ q)) :
    ∃ t, I t ∧ (e.answer now request f s).2 =
      (t.resolver, { s.2 with results := t.results, updates := s.2.updates.map (· ++ t.compiled) }) := by
  obtain ⟨resolver, r⟩ := s
  rw [answer]
  dsimp only at h hf ⊢
  cases hq : r.inquire e.asserter now request with
  | error _ =>
    refine ⟨_, h, ?_⟩
    simp only [List.append_nil, Option.map_id']
  | ok q => exact ⟨_, hf q hq _ h, rfl⟩

theorem ask_session (question : Question)
    (hroles : ∀ q, s.2.inquire e.asserter now request = .ok q →
      Preserves I (q.roles ⟨e.resolve, now.seconds⟩))
    (hpolicies : ∀ q, s.2.inquire e.asserter now request = .ok q → ∀ principals request,
      Preserves I (q.matchedPolicies ⟨e.resolve, now.seconds⟩ principals request)) :
    ∃ t, I t ∧ e.ask question now request s =
      (t.resolver, { s.2 with results := t.results, updates := s.2.updates.map (· ++ t.compiled) }) := by
  have hdecide := fun q hq => Inquiry.preserves_decide (hroles q hq) (hpolicies q hq) request
  cases question with
  | decision => exact answer_spec (e := e) (f := fun w q => q.decide w request) h hdecide
  | diagnosis => exact answer_spec (e := e) (f := fun w q => q.decide w request) h hdecide
  | roles => exact answer_spec h fun q hq => (hroles q hq).bind fun _ => .pure _
  | permissions =>
    exact answer_spec h fun q hq => Inquiry.preserves_permissions (hroles q hq) (hpolicies q hq)

end Ask

theorem ask_spec {s : σ × Registry} (h : s.2.Orderly) (question : Question) (now : ClockTime)
    (request : Request) : ∃ results new, (e.ask question now request s).2 =
      { s.2 with results, updates := s.2.updates.map (· ++ new) } ∧ ∀ u ∈ new, s.2.Offers u := by
  have hstart : Session.Offered s.2 { resolver := s.1, results := s.2.results } := fun _ hu => nomatch hu
  obtain ⟨t, ht, hask⟩ := ask_session hstart question (fun q hq => (h.reads hq).offered_roles _)
    fun q hq => (h.reads hq).offered_matchedPolicies _
  exact ⟨t.results, t.compiled, by rw [hask], ht⟩

end Evaluator
end Turnstile

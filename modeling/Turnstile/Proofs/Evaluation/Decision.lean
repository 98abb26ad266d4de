import Turnstile.Evaluation.Evaluator
import Turnstile.Proofs.Evaluation.Applicability
import Turnstile.Proofs.Evaluation.Inquiry

/-! Decisions in terms of the live policies. Neither the indexes nor the conditions that are kept
with the policies show in an answer, whatever history they come from. -/
namespace Turnstile
variable {σ α : Type}

namespace Rule
variable [Rule α] (w : Surroundings σ) (functions : FunctionTable) (attributes : Dict Json)

/-- A rule holds without a condition, or when its condition can be compiled for the functions and is
true for the attributes. -/
def holds (a : α) : StateM (σ × ResultCache) Bool := fun s =>
  match condition? a with
  | none => (true, s)
  | some expression =>
    match CompiledCondition.compile expression functions with
    | .error _ => (false, s)
    | .ok c =>
      let (result, s) := c.evaluate w.resolve w.now attributes s
      (result.toOption = some true, s)

/-- The rules that hold, tried one after the other. -/
def holding : List α → StateM (σ × ResultCache) (List α)
  | [] => pure []
  | a :: rules => do
    let held ← holds w functions attributes a
    let others ← holding rules
    return if held then a :: others else others

variable (a : α) (l m : List α) (s : σ × ResultCache)

theorem holding_cons : holding w functions attributes (a :: l) s =
    let (held, s) := holds w functions attributes a s
    let (others, s) := holding w functions attributes l s
    (if held then a :: others else others, s) := rfl

theorem holding_append : holding w functions attributes (l ++ m) s =
    let (first, s) := holding w functions attributes l s
    let (second, s) := holding w functions attributes m s
    (first ++ second, s) := by
  induction l generalizing s with
  | nil => rfl
  | cons a l ih =>
    rw [List.cons_append, holding_cons, holding_cons]
    obtain ⟨held, t⟩ := holds w functions attributes a s
    simp only [ih]
    cases held <;> rfl

end Rule

/-- The live policies that apply to a request when some principals are presented. -/
def Catalogue.applying (c : Catalogue) (w : Surroundings σ) (attributes : Dict Json)
    (presented : List String) (request : Request) : StateM (σ × ResultCache) (List Policy) :=
  Rule.holding w c.functions attributes <| (c.policiesFor request.service).filter fun p =>
    p.Concerns presented request.resource request.action

theorem Decision.combine_filter (l : List Policy) :
    combine (l.filter fun p => p.effect = .grant).length (l.filter fun p => p.effect = .deny).length =
      if ∃ p ∈ l, p.effect = .deny then .deny .denyPolicyFound
      else if ∃ p ∈ l, p.effect = .grant then .allow .grantPolicyFound
      else .deny .noApplicablePolicies := by
  simp only [combine, List.length_filter_pos_iff, decide_eq_true_eq]

/-- Some policy grants and none denies. -/
theorem Decision.combine_filter_eq_allow {l : List Policy} :
    combine (l.filter fun p => p.effect = .grant).length (l.filter fun p => p.effect = .deny).length =
      .allow .grantPolicyFound ↔ (∃ p ∈ l, p.effect = .grant) ∧ ∀ p ∈ l, p.effect ≠ .deny := by
  rw [combine_filter]
  by_cases hdeny : ∃ p ∈ l, p.effect = .deny
  · rw [if_pos hdeny]
    obtain ⟨p, hp, heffect⟩ := hdeny
    exact iff_of_false (fun h => nomatch h) fun h => h.2 p hp heffect
  · rw [if_neg hdeny]
    have hnone (p : Policy) (hp : p ∈ l) : p.effect ≠ .deny := fun heffect => hdeny ⟨p, hp, heffect⟩
    by_cases hgrant : ∃ p ∈ l, p.effect = .grant
    · rw [if_pos hgrant]
      exact iff_of_true rfl ⟨hgrant, hnone⟩
    · rw [if_neg hgrant]
      exact iff_of_false (fun h => nomatch h) fun h => hgrant h.1

/-- No other allowing decision is combined. -/
theorem Decision.eq_allow_of_combine {granted denied : Nat} (h : (combine granted denied).allowed = true) :
    combine granted denied = .allow .grantPolicyFound := by
  rw [combine] at h ⊢
  by_cases hdenied : 0 < denied
  · rw [if_pos hdenied] at h
    cases h
  · rw [if_neg hdenied] at h ⊢
    by_cases hgranted : 0 < granted
    · rw [if_pos hgranted]
    · rw [if_neg hgranted] at h
      cases h

/-- What conditions work on. -/
def Session.calls (s : Session σ) : σ × ResultCache := (s.resolver, s.results)

namespace Inquiry
variable {q : Inquiry} {w : Surroundings σ} {s : Session σ}

theorem holdsCompiled_spec (c : CompiledCondition) (s : Session σ) :
    let answer := c.evaluate w.resolve w.now q.attributes s.calls
    ∃ t, q.holdsCompiled w c s = (Decidable.decide (answer.1.toOption = some true), t) ∧
      t.calls = answer.2 ∧ t.rolePolicies = s.rolePolicies := by
  rw [holdsCompiled, ← Session.calls]
  generalize c.evaluate w.resolve w.now q.attributes s.calls = answer
  obtain ⟨result | held, state⟩ := answer
  · exact ⟨_, rfl, rfl, rfl⟩
  · cases held <;> exact ⟨_, rfl, rfl, rfl⟩

/-- An evaluation finds out whether a rule holds, if a condition that is kept for it is what compiling its
expression gives. -/
theorem holds_of_compiled [Rule α] {cache : RuleCache α} {a : α}
    (h : ∀ expression k, Rule.condition? a = some expression →
      cache.condition? (Rule.id a) = some k → CompiledCondition.compile expression q.functions = .ok k)
    (service : LoadedService) (kind : RuleKind) (s : Session σ) :
    ∃ t, q.holds w service kind cache a s =
        ((Rule.holds w q.functions q.attributes a s.calls).1, t) ∧
      t.calls = (Rule.holds w q.functions q.attributes a s.calls).2 ∧
      t.rolePolicies = s.rolePolicies := by
  rw [holds, Rule.holds]
  cases he : Rule.condition? a with
  | none => exact ⟨s, rfl, rfl, rfl⟩
  | some expression =>
    cases hk : cache.condition? (Rule.id a) with
    | some k =>
      simp only [h expression k he hk]
      exact holdsCompiled_spec k s
    | none =>
      cases hc : CompiledCondition.compile expression q.functions with
      | error _ =>
        simp only [hc]
        exact ⟨s, rfl, rfl, rfl⟩
      | ok k =>
        simp only [hc]
        exact holdsCompiled_spec k { s with compiled := _ }

/-- An evaluation finds out whether a rule holds, be its condition kept in the cache or not. -/
theorem holds_spec [Rule α] {cache : RuleCache α} {rules : Dict α} {a : α}
    (h : cache.Keeps q.functions rules) (ha : rules.get? (Rule.id a) = some a)
    (service : LoadedService) (kind : RuleKind) (s : Session σ) :
    ∃ t, q.holds w service kind cache a s =
        ((Rule.holds w q.functions q.attributes a s.calls).1, t) ∧
      t.calls = (Rule.holds w q.functions q.attributes a s.calls).2 ∧
      t.rolePolicies = s.rolePolicies :=
  holds_of_compiled (fun _ _ he hk => h.compile_eq ha he hk) service kind s

/-- The policies that hold are sorted by their effect. -/
structure Matched.Sorts (m : Matched) (l : List Policy) : Prop where
  granted : m.granted = l.filter fun p => p.effect = .grant
  denied : m.denied = l.filter fun p => p.effect = .deny

theorem Matched.Sorts.add {m : Matched} {l : List Policy} (h : m.Sorts l) (p : Policy) (held : Bool) :
    (m.add p held).Sorts (l ++ if held then [p] else []) := by
  rw [Matched.add]
  cases held with
  | false =>
    rw [if_neg Bool.false_ne_true, if_neg Bool.false_ne_true, List.append_nil]
    exact ⟨h.granted, h.denied⟩
  | true =>
    rw [if_pos rfl, if_pos rfl]
    cases he : p.effect with
    | grant => constructor <;> simp [h.granted, h.denied, he]
    | deny => constructor <;> simp [h.granted, h.denied, he]

/-- Tries the condition of a policy. -/
def sort (w : Surroundings σ) (q : Inquiry) (service : LoadedService) (m : Matched) (p : Policy) :
    Evaluation σ Matched := do
  return m.add p (← q.holds w service .policy service.policies p)

private theorem bind_run {β γ : Type} {x : Evaluation σ β} {f : β → Evaluation σ γ} {s t : Session σ}
    {b : β} (h : x s = (b, t)) : (x >>= f) s = f b t := by
  change f (x s).1 (x s).2 = f b t
  rw [h]

/-- Some policies of a service are sorted into those whose conditions hold. -/
theorem foldlM_sort_spec {service : LoadedService} {rules : Dict Policy}
    (h : service.policies.Keeps q.functions rules) {l : List Policy}
    (hl : ∀ p ∈ l, rules.get? p.id = some p) {m : Matched} {before : List Policy} (hm : m.Sorts before)
    (s : Session σ) :
    let held := Rule.holding w q.functions q.attributes l s.calls
    ∃ m' t, l.foldlM (sort w q service) m s = (m', t) ∧ m'.Sorts (before ++ held.1) ∧
      t.calls = held.2 := by
  induction l generalizing m before s with
  | nil => exact ⟨m, s, rfl, (List.append_nil before).symm ▸ hm, rfl⟩
  | cons p l ih =>
    obtain ⟨t, ht, hcalls, -⟩ := holds_spec (w := w) h (hl p List.mem_cons_self) service .policy s
    have hsort : sort w q service m p s =
        (m.add p (Rule.holds w q.functions q.attributes p s.calls).1, t) := by
      rw [sort, bind_run ht]
      rfl
    rw [List.foldlM_cons, bind_run hsort, Rule.holding_cons]
    generalize Rule.holds w q.functions q.attributes p s.calls = answer at hcalls
    obtain ⟨held, u⟩ := answer
    obtain rfl := hcalls
    obtain ⟨m', t', hrun, hsorts, hrest⟩ :=
      ih (fun p hp => hl p (List.mem_cons_of_mem _ hp)) (hm.add p held) t
    refine ⟨m', t', hrun, ?_, hrest⟩
    rw [List.append_assoc] at hsorts
    cases held <;> exact hsorts

/-- The policies of some services are sorted into those that concern a request and hold. -/
theorem foldlM_services_spec {services : List LoadedService} {live : List LiveService}
    (h : List.Forall₂ (LoadedService.Keeps q.functions) services live) (presented : List String)
    (resource action : String) {m : Matched} {before : List Policy} (hm : m.Sorts before)
    (s : Session σ) :
    let held := Rule.holding w q.functions q.attributes
      ((live.flatMap (·.policies.values)).filter fun p => p.Concerns presented resource action) s.calls
    ∃ m' t, services.foldlM (fun m service =>
        (candidates service presented (some (resource, action))).foldlM (sort w q service) m) m s =
      (m', t) ∧ m'.Sorts (before ++ held.1) := by
  induction h generalizing m before s with
  | nil => exact ⟨m, s, rfl, (List.append_nil before).symm ▸ hm⟩
  | @cons service l services live hl hrest ih =>
    have hids : ∀ p ∈ candidates service presented (some (resource, action)),
        l.policies.get? p.id = some p := by
      intro p hp
      rw [candidates_eq hl.policies] at hp
      exact hl.policies.get?_id (List.mem_of_mem_filter hp)
    obtain ⟨m₁, t₁, hrun₁, hsorts₁, hcalls₁⟩ :=
      foldlM_sort_spec (w := w) hl.policies hids hm s
    obtain ⟨m₂, t₂, hrun₂, hsorts₂⟩ := ih hsorts₁ t₁
    refine ⟨m₂, t₂, ?_, ?_⟩
    · rw [List.foldlM_cons, bind_run hrun₁]
      exact hrun₂
    · rw [List.flatMap_cons, List.filter_append, ← candidates_eq hl.policies, Rule.holding_append]
      rw [hcalls₁, List.append_assoc] at hsorts₂
      exact hsorts₂

theorem matchedPolicies_spec {c : Catalogue} {now : ClockTime} {request : Request}
    {subject : Option Subject} (h : q.Resolves c now request subject) (w : Surroundings σ)
    (presented : List String) (s : Session σ) :
    (q.matchedPolicies w presented (some (q.resource, q.action)) s).1.Sorts
      (c.applying w q.attributes presented request s.calls).1 := by
  have hempty : Matched.Sorts {} [] := ⟨rfl, rfl⟩
  obtain ⟨m, t, hrun, hsorts⟩ := foldlM_services_spec (w := w) (h.functions ▸ h.services) presented
    q.resource q.action hempty s
  have hmatched : q.matchedPolicies w presented (some (q.resource, q.action)) s = (m, t) := hrun
  rw [hmatched]
  rw [h.functions, h.resource, h.action] at hsorts
  exact hsorts

/-- An inquiry without policies has no live policies. -/
theorem policiesFor_eq_nil {c : Catalogue} {now : ClockTime} {request : Request}
    {subject : Option Subject} (h : q.Resolves c now request subject) (hn : q.hasNoPolicies = true) :
    c.policiesFor request.service = [] := by
  have hservices := h.services
  rw [hasNoPolicies] at hn
  rw [Catalogue.policiesFor]
  generalize q.services = services, c.servicesFor request.service = live at hservices hn ⊢
  induction hservices with
  | nil => rfl
  | @cons service l services live hl _ ih =>
    rw [List.all_cons, Bool.and_eq_true] at hn
    have hnone := hl.policies.sound.isEmpty_iff.mp hn.1
    rw [hl.policies.entries] at hnone
    rw [List.flatMap_cons, ih hn.2, List.append_nil, List.eq_nil_iff_forall_not_mem]
    intro p hp
    obtain ⟨id, hid⟩ := Dict.mem_values.mp hp
    exact hnone id (Dict.mem_of_get? hid)

/-- A decision combines the policies that apply. -/
theorem decide_spec {c : Catalogue} {now : ClockTime} {request : Request}
    {subject : Option Subject} (h : q.Resolves c now request subject) (w : Surroundings σ)
    (s : Session σ) :
    let applying := (c.applying w q.attributes (q.principalsWith (q.roles w s).1) request
      (q.roles w s).2.calls).1
    let d := (q.decide w request s).1
    (⟨d.allowed, d.reason⟩ : Decision) =
      Decision.combine (applying.filter fun p => p.effect = .grant).length
        (applying.filter fun p => p.effect = .deny).length := by
  intro applying d
  by_cases hn : q.hasNoPolicies = true
  · have happlying : applying = [] := by
      simp only [applying, Catalogue.applying, policiesFor_eq_nil h hn]
      rfl
    rw [happlying]
    simp only [d, Inquiry.decide, hn, if_true]
    rfl
  · have hsorts := matchedPolicies_spec h w (q.principalsWith (q.roles w s).1) (q.roles w s).2
    rw [← hsorts.granted, ← hsorts.denied]
    simp only [d, Inquiry.decide, hn]
    rfl

end Inquiry

namespace Evaluator
variable {e : Evaluator σ} {r : Registry} {now : ClockTime} {request : Request} {q : Inquiry}

/-- A resolved request is told its roles, and the state is that after their resolution. -/
theorem grantedRoles_of_inquire (hq : r.inquire e.asserter now request = .ok q) (resolver : σ) :
    let run := q.roles ⟨e.resolve, now.seconds⟩ { resolver, results := r.results }
    e.grantedRoles now request (resolver, r) = (.ok run.1.toList, run.2.resolver, { r with
      results := run.2.results
      updates := r.updates.map (· ++ run.2.compiled) }) := by
  rw [grantedRoles, answer, hq]
  rfl

theorem isAllowed_of_inquire (hq : r.inquire e.asserter now request = .ok q) (resolver : σ) :
    let d := (q.decide ⟨e.resolve, now.seconds⟩ request { resolver, results := r.results }).1
    (e.isAllowed now request (resolver, r)).1 = .ok ⟨d.allowed, d.reason⟩ := by
  have hanswer : (e.answer now request (fun w q => q.decide w request) (resolver, r)).1 =
      .ok (q.decide ⟨e.resolve, now.seconds⟩ request { resolver, results := r.results }).1 := by
    rw [answer, hq]
    rfl
  change ((e.answer now request (fun w q => q.decide w request) (resolver, r)).1).map
    (fun d : Diagnosis => (⟨d.allowed, d.reason⟩ : Decision)) = _
  rw [hanswer]
  rfl

end Evaluator

/-- A request for a live service, whose token is not rejected, gets the decision of the live policies
that apply to its principals and the roles that it is granted: a denial, or else a grant, or else
nothing. Earlier evaluations may have left any results and updates. -/
theorem isAllowed_after (history : List Mutation) (results : ResultCache)
    (updates : Option (List ConditionUpdate)) (e : Evaluator σ) (resolver : σ) (now : ClockTime)
    (request : Request) (subject : Option Subject)
    (live : request.service ∈ (Catalogue.after history).services)
    (asserted : request.subject.mapM (Subject.assert e.asserter) = .ok subject) :
    let r := { Registry.after history with results, updates }
    ∃ roles resolver' r', e.grantedRoles now request (resolver, r) = (.ok roles, resolver', r') ∧
      let presented := (subject.getD {}).effectivePrincipals ++ roles.map Role.principal
      let applying := ((Catalogue.after history).applying ⟨e.resolve, now.seconds⟩
        (Attributes.ofRequest now subject request) presented request (resolver', r'.results)).1
      (e.isAllowed now request (resolver, r)).1 = .ok (
        if ∃ p ∈ applying, p.effect = .deny then .deny .denyPolicyFound
        else if ∃ p ∈ applying, p.effect = .grant then .allow .grantPolicyFound
        else .deny .noApplicablePolicies) := by
  intro r
  have hkeeps : r.Keeps (Catalogue.after history) :=
    ⟨(Registry.keeps_after history).functions, (Registry.keeps_after history).services⟩
  obtain ⟨q, hq, h⟩ := hkeeps.inquire now live asserted
  refine ⟨_, _, _, Evaluator.grantedRoles_of_inquire hq resolver, ?_⟩
  intro presented applying
  have hdecide := Inquiry.decide_spec h ⟨e.resolve, now.seconds⟩ { resolver, results := r.results }
  rw [Evaluator.isAllowed_of_inquire hq, hdecide, Decision.combine_filter, Inquiry.principalsWith,
    h.principals, h.attributes]
  rfl

/-- A library where a member may read books. The denial is replaced, and the functions change. -/
def lending : List Mutation :=
  [.addService { name := "library" },
    .addPolicy "library" { id := "1", effect := .deny, permissions := [.onExpression ".*" []] },
    .addPolicy "library" {
      id := "1"
      effect := .grant
      permissions := [.onExpression "book/.*" ["read"]]
      principals := [["user:ann", "role:member"]]
      condition := some "request_action == 'read'" },
    .addRolePolicy "library" {
      id := "1", effect := .grant, roles := ["member"], principals := ["user:ann"] },
    .addFunction { name := "opening" }]

def reading : Request where
  subject := some { principals := [.user "ann"] }
  service := "library"
  resource := "book/1"
  action := "read"

/-- No custom function can be reached. -/
def unreachable : Evaluator Unit where
  resolve d _ s := (.error (.customFunction d.name), s)

/-- Ann may read. -/
theorem isAllowed_reading : reading.service ∈ (Catalogue.after lending).services ∧
    reading.subject.mapM (Subject.assert unreachable.asserter) = .ok reading.subject ∧
    (unreachable.isAllowed ⟨0, 0⟩ reading ((), Registry.after lending)).1 =
      .ok (.allow .grantPolicyFound) := by
  have hlive : reading.service ∈ (Catalogue.after lending).services := by decide +kernel
  refine ⟨hlive, rfl, ?_⟩
  obtain ⟨roles, ⟨⟩, r, hroles, hallowed⟩ := isAllowed_after lending
    (Registry.after lending).results (Registry.after lending).updates unreachable () ⟨0, 0⟩ reading
    reading.subject hlive rfl
  have hmember : (unreachable.grantedRoles ⟨0, 0⟩ reading ((), Registry.after lending)).1.toOption =
      some ["member"] := by decide +kernel
  have hresults : (unreachable.grantedRoles ⟨0, 0⟩ reading ((), Registry.after lending)).2.2.results =
      {} := by decide +kernel
  rw [hroles] at hmember hresults
  obtain rfl := Option.some.inj hmember
  rw [hresults] at hallowed
  rw [hallowed]
  refine congrArg Except.ok ?_
  decide +kernel

end Turnstile

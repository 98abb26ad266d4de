import Turnstile.Proofs.Evaluation.Permissions
import Turnstile.Proofs.Evaluation.Roles

/-! Rules whose conditions fail. A request is answered unless its service is not loaded or its token is rejected,
whatever its rules are. A rule with a condition that fails for a request might as well be missing: all other rules
count as they would without it. -/
namespace Turnstile
variable {σ : Type}

/-- The same rules hold in two services, although one of them may have others besides. -/
structure LoadedService.HoldsAlike (truth : LoadedService → Policy → Bool)
    (truth' : LoadedService → RolePolicy → Bool)
    (s s' : LoadedService) : Prop where
  left : s.Orderly
  right : s'.Orderly
  policies : ∀ id p, s.policies.get? id = some p ∧ truth s p = true ↔
    s'.policies.get? id = some p ∧ truth s' p = true
  rolePolicies : ∀ id p, s.rolePolicies.get? id = some p ∧ truth' s p = true ↔
    s'.rolePolicies.get? id = some p ∧ truth' s' p = true

theorem LoadedService.Orderly.holdsAlike_self {s : LoadedService} (h : s.Orderly)
    (truth : LoadedService → Policy → Bool) (truth' : LoadedService → RolePolicy → Bool) :
    LoadedService.HoldsAlike truth truth' s s :=
  ⟨h, h, fun _ _ => Iff.rfl, fun _ _ => Iff.rfl⟩

/-- What is found in two caches with the same rules that hold is the same, as far as it holds. -/
theorem RuleCache.filter_related_congr {α : Type} [Rule α] [CoveringRule α] {c c' : RuleCache α} (h : c.Sound)
    (h' : c'.Sound) {f f' : α → Bool}
    (same : ∀ id a, c.get? id = some a ∧ f a = true ↔ c'.get? id = some a ∧ f' a = true) (principals : List String)
    (resource : Option String) (test : α → Bool) :
    ((c.related principals resource).values.filter test).filter f =
      ((c'.related principals resource).values.filter test).filter f' := by
  rw [List.filter_filter, List.filter_filter]
  refine Dict.filter_values_congr fun id a => ?_
  rw [h.get?_related, h'.get?_related, Bool.and_eq_true, Bool.and_eq_true]
  have hsame := same id a
  rw [get?, get?] at hsame
  tauto

namespace Inquiry
variable {q : Inquiry} {services : List LoadedService} {truth : LoadedService → Policy → Bool}
  {truth' : LoadedService → RolePolicy → Bool}

section Alike
variable (related : List.Forall₂ (LoadedService.HoldsAlike truth truth') q.services services)
include related

/-- What each of two services has the same, all of them have the same. -/
private theorem flatMap_congr {β : Type} {f g : LoadedService → List β}
    (h : ∀ s s', LoadedService.HoldsAlike truth truth' s s' → f s = g s') :
    q.services.flatMap f = services.flatMap g := by
  generalize q.services = l at related
  induction related with
  | nil => rfl
  | cons hs _ ih => rw [List.flatMap_cons, List.flatMap_cons, h _ _ hs, ih]

theorem found_eq (presented : List String) (request : Option (String × String)) :
    q.found truth presented request = { q with services }.found truth presented request :=
  flatMap_congr related fun _ _ h => RuleCache.filter_related_congr h.left.policies.sound h.right.policies.sound
    h.policies presented _ _

theorem foundRolePolicies_eq (principals : List String) (seen : NameSet) :
    q.foundRolePolicies truth' principals seen = { q with services }.foundRolePolicies truth' principals seen :=
  flatMap_congr related fun _ _ h => RuleCache.filter_related_congr h.left.rolePolicies.sound
    h.right.rolePolicies.sound h.rolePolicies principals _ _

theorem rolePolicies_eq : q.rolePolicies truth' = { q with services }.rolePolicies truth' := by
  refine flatMap_congr related fun s s' h => Dict.filter_values_congr fun id p => ?_
  have hsame := h.rolePolicies id p
  rw [RuleCache.get?, RuleCache.get?] at hsame
  rw [decide_eq_true_eq, decide_eq_true_eq]
  tauto

/-- Rules that do not hold have a part in the size of a source only. -/
theorem resolve_settledSource_eq (orderly : ∀ service ∈ q.services, service.Orderly) :
    (q.settledSource truth').resolve q.principals =
      ({ q with services }.settledSource truth').resolve q.principals := by
  have hquery : (q.settledSource truth').query = ({ q with services }.settledSource truth').query := by
    funext principals seen
    exact congrArg (fun l => (pure (l.foldl MatchedRolePolicies.put {}) : StateM Unit MatchedRolePolicies))
      (foundRolePolicies_eq related principals seen)
  refine RoleResolution.resolve_congr_size hquery (fun principals seen t p hp => ?_) length_rolePolicies_le ?_ _
  · have hanswer : ((q.settledSource truth').query principals seen t).1.granted =
        (q.foundRolePolicies truth' principals seen).filter (·.effect = .grant) :=
      congrArg MatchedRolePolicies.granted (MatchedRolePolicies.foldl_put ..)
    rw [hanswer, List.mem_filter] at hp
    exact ((mem_foundRolePolicies_iff orderly).mp hp.1).2.1
  · rw [rolePolicies_eq related]
    exact length_rolePolicies_le

end Alike

section Idle
variable {α : Type} [Rule α] {w : Surroundings σ} {cache : RuleCache α} {a : α} {start : Session σ}

/-- A rule does not hold if its condition fails, be it compiled anew or kept. -/
theorem holds_of_fails {expression : String} (condition : Rule.condition? a = some expression)
    (suits : ∀ k, cache.condition? (Rule.id a) = some k → k.expression = expression ∧ k.functions = q.functions)
    (fails : ∀ k, CompiledCondition.compile expression q.functions = .ok k →
      ∃ failure, (k.evaluate w.resolve w.now q.attributes start.calls).1 = .error failure)
    (service : LoadedService) (kind : RuleKind) : (q.holds w service kind cache a start).1 = false := by
  have hcompiled (expression' : String) (k : CompiledCondition) (he : Rule.condition? a = some expression')
      (hk : cache.condition? (Rule.id a) = some k) :
      CompiledCondition.compile expression' q.functions = .ok k := by
    obtain rfl := Option.some.inj (condition.symm.trans he)
    obtain ⟨hexpression, hfunctions⟩ := suits k hk
    rw [← hexpression, ← hfunctions]
    exact k.compile_self
  obtain ⟨t, hrun, -, -⟩ := holds_of_compiled (w := w) hcompiled service kind start
  rw [hrun, Rule.holds, condition]
  cases hk : CompiledCondition.compile expression q.functions with
  | error _ => simp only [hk]
  | ok k =>
    obtain ⟨failure, hfailure⟩ := fails k hk
    simp only [hk]
    change Decidable.decide ((k.evaluate w.resolve w.now q.attributes start.calls).1.toOption = some true) = false
    rw [hfailure]
    rfl

/-- Without a rule that does not hold, the same rules hold. -/
theorem holds_remove_iff (orderly : cache.Orderly) (live : cache.get? (Rule.id a) = some a) {service : LoadedService}
    {kind : RuleKind} (idle : (q.holds w service kind cache a start).1 = false) (service' : LoadedService)
    (id : String) (b : α) :
    cache.get? id = some b ∧ (q.holds w service kind cache b start).1 = true ↔
      (cache.remove (Rule.id a)).get? id = some b ∧
        (q.holds w service' kind (cache.remove (Rule.id a)) b start).1 = true := by
  have hentry : (cache.remove (Rule.id a)).get? id = if id = Rule.id a then none else cache.get? id :=
    RuleCache.get?_entries_remove ..
  rw [hentry]
  by_cases hid : id = Rule.id a
  · rw [if_pos hid, hid]
    refine iff_of_false ?_ fun h => nomatch h.1
    rintro ⟨hb, htrue⟩
    obtain rfl := Option.some.inj (live.symm.trans hb)
    rw [idle] at htrue
    cases htrue
  · rw [if_neg hid]
    refine and_congr_right fun hb => ?_
    obtain rfl : Rule.id b = id := orderly.sound.ids id b hb
    have hkept : (cache.remove (Rule.id a)).condition? (Rule.id b) = cache.condition? (Rule.id b) :=
      (orderly.owned.get?_conditions_remove ..).trans (if_neg hid)
    rw [holds_congr rfl hkept.symm service service' kind kind]

end Idle
end Inquiry

/-- A condition that is left was kept before. -/
theorem RuleCache.uses_of_remove {α : Type} [Rule α] {c : RuleCache α} {id : String} {d : FunctionDefinition}
    (hd : (c.remove id).Uses d) : c.Uses d := by
  obtain ⟨a, expression, k, ha, he, hk, hd⟩ := hd
  have hentry := (get?_entries_remove c id (Rule.id a)).symm.trans ha
  split at hentry
  · cases hentry
  · exact ⟨a, expression, k, hentry, he, (get?_conditions_remove hk).1, hd⟩

/-- A service takes the place of another one. -/
def Registry.put (r : Registry) (name : String) (s : LoadedService) : Registry :=
  { r with services := r.services.insert name s }

namespace Registry
variable {r : Registry} {name : String} {s : LoadedService}

theorem service?_put (r : Registry) (name : String) (s : LoadedService) (n : String) :
    (r.put name s).service? n = if n = name then some s else r.service? n := Dict.get?_insert ..

theorem changeService_of_loaded (hs : r.service? name = some s) (f : LoadedService → LoadedService) :
    (r.changeService name f).toOption.getD r = r.put name (f s) := by
  rw [changeService, hs]
  rfl

theorem change_deletePolicy (hs : r.service? name = some s) (id : String) :
    r.change (.deletePolicy name id) = r.put name { s with policies := s.policies.remove id } :=
  changeService_of_loaded hs _

theorem change_deleteRolePolicy (hs : r.service? name = some s) (id : String) :
    r.change (.deleteRolePolicy name id) = r.put name { s with rolePolicies := s.rolePolicies.remove id } :=
  changeService_of_loaded hs _

theorem uses_of_put {s' : LoadedService} (hs : r.service? name = some s) (uses : ∀ d, s'.Uses d → s.Uses d)
    {d : FunctionDefinition} (hd : (r.put name s').Uses d) : r.Uses d := by
  rcases hd with hd | ⟨n, t, ht, hd⟩
  · exact .inl hd
  · rw [service?_put] at ht
    split at ht
    · obtain rfl := Option.some.inj ht
      exact .inr ⟨name, s, hs, uses d hd⟩
    · exact .inr ⟨n, t, ht, hd⟩

end Registry

namespace Evaluator
variable {answers : FunctionDefinition → List Json → Except Error Json} {e : Evaluator σ} {now : ClockTime}
  {request : Request}

/-- A request gets the same answers. -/
structure AnswersAlike (e : Evaluator σ) (now : ClockTime) (request : Request) (s s' : σ × Registry) : Prop where
  isAllowed : (e.isAllowed now request s).1 = (e.isAllowed now request s').1
  grantedRoles : (e.grantedRoles now request s).1 = (e.grantedRoles now request s').1
  grantedPermissions : (e.grantedPermissions now request s).1 = (e.grantedPermissions now request s').1

/-- What keeps a request from being answered is the same for all questions. -/
theorem answersAlike_of_error {s s' : σ × Registry} {err : Error} (h : s.2.inquire e.asserter now request = .error err)
    (h' : s'.2.inquire e.asserter now request = .error err) : e.AnswersAlike now request s s' := by
  have hanswer {α : Type} (ask : Surroundings σ → Inquiry → Evaluation σ α) :
      (e.answer now request ask s).1 = (e.answer now request ask s').1 := by
    rw [answer, answer, h, h']
  refine ⟨?_, hanswer _, hanswer _⟩
  exact congrArg (Except.map fun d : Diagnosis => (⟨d.allowed, d.reason⟩ : Decision))
    (hanswer fun w q => q.decide w request)

/-- Two inquiries with services in which the same rules hold find the same roles and policies, so the answers are the
same. -/
theorem answersAlike_of_related (pure : e.resolve.IsPure answers) {r r' : Registry} (orderly : r.Orderly)
    (orderly' : r'.Orderly) (alike : AnswerAlike answers r.Uses) (uses : ∀ d, r'.Uses d → r.Uses d)
    (results : r'.results = r.results) {q : Inquiry} {services : List LoadedService} (resolver : σ)
    (hq : r.inquire e.asserter now request = .ok q) (hq' : r'.inquire e.asserter now request = .ok { q with services })
    (related :
      let w : Surroundings σ := ⟨e.resolve, now.seconds⟩
      let start : Session σ := { resolver, results := r.results }
      List.Forall₂ (LoadedService.HoldsAlike (fun t p => (q.holds w t .policy t.policies p start).1)
        (fun t p => (q.holds w t .rolePolicy t.rolePolicies p start).1)) q.services services) :
    e.AnswersAlike now request (resolver, r) (resolver, r') := by
  obtain ⟨_, _, results', _, _, _⟩ := r'
  obtain rfl : results' = r.results := results
  let w : Surroundings σ := ⟨e.resolve, now.seconds⟩
  let start : Session σ := { resolver, results := r.results }
  let q' : Inquiry := { q with services }
  let truth (q : Inquiry) (t : LoadedService) (p : Policy) : Bool := (q.holds w t .policy t.policies p start).1
  let value (d : FunctionDefinition) (args : List Json) : Except Error Json :=
    (d.call e.resolve now.seconds args (resolver, r.results)).1
  let times (t : Int) : Prop := t = now.seconds
  have timely : times w.now := rfl
  -- A call has one answer for the whole request, so it does not matter which rules were looked at before.
  have hstart : Settled e.resolve r.Uses times value start.calls := by
    rintro d - t rfl args
    rfl
  have horderly (service : LoadedService) (hmem : service ∈ q.services) : service.Orderly :=
    ((orderly.reads hq).services service hmem).2
  have horderly' (service : LoadedService) (hmem : service ∈ q'.services) : service.Orderly :=
    ((orderly'.reads hq').services service hmem).2
  have huses (d : FunctionDefinition) (hd : q.Uses d) : r.Uses d := (orderly.reads hq).uses hd
  have huses' (d : FunctionDefinition) (hd : q'.Uses d) : r.Uses d := uses d ((orderly'.reads hq').uses hd)
  have hcertain := q.certain (w := w) pure alike timely horderly huses hstart
  have hcertain' := q'.certain (w := w) pure alike timely horderly' huses' hstart
  have hroles : (q.roles w start).1 = (q'.roles w start).1 := by
    rw [Inquiry.roles_eq_settledSource pure alike timely horderly huses hstart,
      Inquiry.roles_eq_settledSource pure alike timely horderly' huses' hstart]
    exact congrArg (fun x : StateM Unit NameSet => (x ()).1) (Inquiry.resolve_settledSource_eq related horderly)
  have hfound (presented : List String) (filter : Option (String × String)) :
      q.found (truth q) presented filter = q'.found (truth q') presented filter :=
    Inquiry.found_eq related presented filter
  refine ⟨?_, ?_, ?_⟩
  · refine (isAllowed_of_certain hq hcertain hstart).trans
      (Eq.trans ?_ (isAllowed_of_certain hq' hcertain' hstart).symm)
    rw [hfound, hroles]
    rfl
  · rw [grantedRoles_of_inquire hq, grantedRoles_of_inquire hq']
    exact congrArg (fun roles => Except.ok roles.toList) hroles
  · refine (grantedPermissions_of_certain hq hcertain hstart).trans
      (Eq.trans ?_ (grantedPermissions_of_certain hq' hcertain' hstart).symm)
    rw [hfound, hroles]
    rfl

/-- While the same rules hold in a service that takes the place of another one, all questions are answered alike. -/
theorem answersAlike_put (pure : e.resolve.IsPure answers) {r : Registry} (orderly : r.Orderly)
    (alike : AnswerAlike answers r.Uses) {name : String} {s s' : LoadedService} (hs : r.service? name = some s)
    (orderly' : (r.put name s').Orderly) (uses : ∀ d, s'.Uses d → s.Uses d) (resolver : σ)
    (related : ∀ q, r.inquire e.asserter now request = .ok q →
      let w : Surroundings σ := ⟨e.resolve, now.seconds⟩
      let start : Session σ := { resolver, results := r.results }
      LoadedService.HoldsAlike (fun t p => (q.holds w t .policy t.policies p start).1)
        (fun t p => (q.holds w t .rolePolicy t.rolePolicies p start).1) s s') :
    e.AnswersAlike now request (resolver, r) (resolver, r.put name s') := by
  let w : Surroundings σ := ⟨e.resolve, now.seconds⟩
  let start : Session σ := { resolver, results := r.results }
  let truth (q : Inquiry) (t : LoadedService) (p : Policy) : Bool := (q.holds w t .policy t.policies p start).1
  let truth' (q : Inquiry) (t : LoadedService) (p : RolePolicy) : Bool :=
    (q.holds w t .rolePolicy t.rolePolicies p start).1
  have hrel (n : String) : Option.Rel (fun t t' => ∀ q, r.inquire e.asserter now request = .ok q →
      LoadedService.HoldsAlike (truth q) (truth' q) t t') (r.service? n) ((r.put name s').service? n) := by
    rw [Registry.service?_put]
    by_cases hn : n = name
    · rw [if_pos hn, hn, hs]
      exact .some related
    · rw [if_neg hn]
      cases ht : r.service? n with
      | none => exact .none
      | some t => exact .some fun _ _ => (orderly n t ht).2.holdsAlike_self _ _
  have hfunctions : r.functions = (r.put name s').functions := rfl
  rcases Registry.inquire_related hfunctions hrel e.asserter now request with
    ⟨err, herr, herr'⟩ | ⟨q, services, hq, hq', -, hservices⟩
  · exact answersAlike_of_error herr herr'
  · exact answersAlike_of_related pure orderly orderly' alike (fun _ hd => Registry.uses_of_put hs uses hd) rfl resolver
      hq hq' (hservices.imp fun _ _ h => h q hq)

end Evaluator

/-- Why a request is refused: its service is not loaded, or its token is checked and rejected. -/
def Registry.Refuses (r : Registry) (asserter : Option TokenAsserter) (request : Request) (err : Error) : Prop :=
  (r.service? request.service = none ∧ err = .serviceNotFound request.service) ∨
    ∃ subject check cause message, request.subject = some subject ∧ asserter = some check ∧
      subject.needsAssertion = true ∧ check subject = .error cause ∧ err = .tokenAssertion message

/-- A check is asked for its opinion only if there is need, and all its errors count as one. -/
theorem Subject.of_assert_error {asserter : Option TokenAsserter} {s : Subject} {err : Error}
    (h : s.assert asserter = .error err) : ∃ check cause message, asserter = some check ∧
      s.needsAssertion = true ∧ check s = .error cause ∧ err = .tokenAssertion message := by
  cases asserter with
  | none => cases h
  | some check =>
    rw [assert] at h
    by_cases hneeds : s.needsAssertion = true
    · rw [if_pos hneeds] at h
      cases hcheck : check s with
      | ok checked =>
        rw [hcheck] at h
        cases h
      | error cause =>
        refine ⟨check, cause, ?_⟩
        rw [hcheck] at h
        split at h
        · cases h
        · exact ⟨_, rfl, hneeds, hcheck, (Except.error.inj h).symm⟩
        · exact ⟨_, rfl, hneeds, hcheck, (Except.error.inj h).symm⟩
    · rw [if_neg hneeds] at h
      cases h

theorem Registry.refuses_of_inquire {r : Registry} {asserter : Option TokenAsserter} {now : ClockTime}
    {request : Request} {err : Error} (h : r.inquire asserter now request = .error err) :
    r.Refuses asserter request err := by
  rw [inquire] at h
  cases htarget : r.service? request.service with
  | none =>
    rw [htarget] at h
    exact .inl ⟨htarget, (Except.error.inj h).symm⟩
  | some target =>
    rw [htarget] at h
    cases hsubject : request.subject with
    | none =>
      rw [hsubject] at h
      cases h
    | some subject =>
      rw [hsubject] at h
      cases hassert : subject.assert asserter with
      | ok checked =>
        simp only [hassert] at h
        cases h
      | error cause =>
        simp only [hassert] at h
        obtain rfl := Except.error.inj h
        obtain ⟨check, cause, message, hcheck⟩ := Subject.of_assert_error hassert
        exact .inr ⟨subject, check, cause, message, hsubject, hcheck⟩

namespace Evaluator
variable {answers : FunctionDefinition → List Json → Except Error Json}

/-- Nothing but an inquiry that is refused makes an answer fail. -/
theorem refuses_of_answer {α : Type} {e : Evaluator σ} {now : ClockTime} {request : Request} {s : σ × Registry}
    {f : Surroundings σ → Inquiry → Evaluation σ α} {err : Error}
    (h : (e.answer now request f s).1 = .error err) : s.2.Refuses e.asserter request err := by
  cases hq : s.2.inquire e.asserter now request with
  | error cause =>
    rw [answer, hq] at h
    obtain rfl := Except.error.inj h
    exact Registry.refuses_of_inquire hq
  | ok q =>
    rw [answer, hq] at h
    cases h

/-- A decision fails with its diagnosis. -/
theorem diagnose_of_isAllowed {e : Evaluator σ} {now : ClockTime} {request : Request} {s : σ × Registry} {err : Error}
    (h : (e.isAllowed now request s).1 = .error err) : (e.diagnose now request s).1 = .error err := by
  change Except.map _ (e.diagnose now request s).1 = _ at h
  cases hd : (e.diagnose now request s).1 with
  | error cause =>
    rw [hd] at h
    exact congrArg Except.error (Except.error.inj h)
  | ok d =>
    rw [hd] at h
    cases h

/-- The condition of a rule cannot be parsed, or its evaluation for the request fails. -/
def Fails {α : Type} [Rule α] (e : Evaluator σ) (now : ClockTime) (request : Request) (s : σ × Registry)
    (a : α) : Prop :=
  ∃ expression, Rule.condition? a = some expression ∧ ∀ subject k,
    request.subject.mapM (Subject.assert e.asserter) = .ok subject →
      CompiledCondition.compile expression s.2.functions = .ok k → ∃ failure, (k.evaluate e.resolve now.seconds
        (Attributes.ofRequest now subject request) (s.1, s.2.results)).1 = .error failure

/-- A rule whose condition fails does not hold, if what is kept for it is its condition. -/
theorem Fails.idle {α : Type} [Rule α] {e : Evaluator σ} {now : ClockTime} {request : Request} {resolver : σ}
    {r : Registry} {a : α} (h : e.Fails now request (resolver, r) a) {cache : RuleCache α}
    (live : cache.get? (Rule.id a) = some a)
    (suits : ∀ k, cache.condition? (Rule.id a) = some k → cache.Suits r.functions (Rule.id a) k) {q : Inquiry}
    (hq : r.inquire e.asserter now request = .ok q) (service : LoadedService) (kind : RuleKind) :
    (q.holds ⟨e.resolve, now.seconds⟩ service kind cache a { resolver, results := r.results }).1 = false := by
  obtain ⟨expression, he, hfails⟩ := h
  obtain ⟨target, subject, -, hsubject, rfl⟩ := Registry.of_inquire hq
  exact Inquiry.holds_of_fails he (fun k hk => suits k hk a expression live he)
    (fun k hk => hfails subject k hsubject hk) service kind

/-- Whatever the conditions of its rules are, a request is refused only for its service or its token. A policy or
role policy with a condition that fails makes no difference to any answer, if the condition that is kept for it is
its own, and if all conditions that are kept take a function of one name for the same. -/
theorem answers_without_failing (e : Evaluator σ) (pure : e.resolve.IsPure answers) (earlier : σ)
    (actions : List Action) (results : ResultCache) (updates : Option (List ConditionUpdate)) (resolver : σ)
    (now : ClockTime) (request : Request) :
    let r := { e.after earlier actions with results, updates }
    let s := (resolver, r)
    (∀ err, (e.isAllowed now request s).1 = .error err ∨ (e.diagnose now request s).1 = .error err ∨
        (e.grantedRoles now request s).1 = .error err ∨ (e.grantedPermissions now request s).1 = .error err →
      r.Refuses e.asserter request err) ∧
    (AnswerAlike answers r.Uses → ∀ name service, r.service? name = some service →
      (∀ p, service.policies.get? p.id = some p → e.Fails now request s p →
        (∀ k, service.policies.condition? p.id = some k → service.policies.Suits r.functions p.id k) →
        e.AnswersAlike now request s (resolver, r.change (.deletePolicy name p.id))) ∧
      ∀ p, service.rolePolicies.get? p.id = some p → e.Fails now request s p →
        (∀ k, service.rolePolicies.condition? p.id = some k → service.rolePolicies.Suits r.functions p.id k) →
        e.AnswersAlike now request s (resolver, r.change (.deleteRolePolicy name p.id))) := by
  intro r s
  have orderly : r.Orderly := e.orderly_after earlier actions
  refine ⟨fun err herr => ?_, fun alike name service hservice =>
    ⟨fun p hp hfails hsuits => ?_, fun p hp hfails hsuits => ?_⟩⟩
  · rcases herr with hallowed | hdiagnosed | hroles | hpermissions
    · exact refuses_of_answer (s := s) (diagnose_of_isAllowed hallowed)
    · exact refuses_of_answer (s := s) hdiagnosed
    · exact refuses_of_answer (s := s) hroles
    · exact refuses_of_answer (s := s) hpermissions
  · have ho := (orderly name service hservice).2
    have ho' := LoadedService.stable_orderly.removePolicy r.functions service p.id ho
    have hchanged := orderly.change (.deletePolicy name p.id)
    rw [Registry.change_deletePolicy hservice] at hchanged ⊢
    refine answersAlike_put pure orderly alike hservice hchanged
      (fun d hd => hd.imp_left RuleCache.uses_of_remove) resolver fun q hq => ⟨ho, ho', fun id b => ?_, fun id b => ?_⟩
    · exact Inquiry.holds_remove_iff ho.policies hp (hfails.idle hp hsuits hq _ _) _ id b
    · exact Iff.rfl
  · have ho := (orderly name service hservice).2
    have ho' := LoadedService.stable_orderly.removeRolePolicy r.functions service p.id ho
    have hchanged := orderly.change (.deleteRolePolicy name p.id)
    rw [Registry.change_deleteRolePolicy hservice] at hchanged ⊢
    refine answersAlike_put pure orderly alike hservice hchanged
      (fun d hd => hd.imp_right RuleCache.uses_of_remove) resolver fun q hq => ⟨ho, ho', fun id b => ?_, fun id b => ?_⟩
    · exact Iff.rfl
    · exact Inquiry.holds_remove_iff ho.rolePolicies hp (hfails.idle hp hsuits hq _ _) _ id b

end Evaluator

/-- A denial whose condition is no truth value, and a role policy whose condition cannot be parsed. -/
def broken : Service where
  name := "library"
  policies := [{ id := "1", effect := .grant, condition := some "request_action == 'read'" },
    { id := "2", effect := .deny, condition := some "request_action" }]
  rolePolicies := [{ id := "3", effect := .grant, roles := ["reader"], condition := some "((" }]

/-- A text that cannot be parsed fails, whatever the request is. -/
theorem Evaluator.fails_of_unparsed {α : Type} [Rule α] {e : Evaluator σ} {now : ClockTime} {request : Request}
    {s : σ × Registry} {a : α} {expression : String} (condition : Rule.condition? a = some expression)
    (unparsed : Condition.Expr.ofText? expression = none) : e.Fails now request s a := by
  refine ⟨expression, condition, fun subject k _ hk => ?_⟩
  have hparsed := k.parsed
  rw [(CompiledCondition.of_compile hk).1, unparsed] at hparsed
  cases hparsed

/-- Ann may read, as she might if the denial and the role policy were not there. She finds no archive. -/
theorem answers_without_failing_broken :
    let r := { unreachable.after () [.change (.addService broken)] with results := {}, updates := none }
    (unreachable.isAllowed ⟨0, 0⟩ reading ((), r)).1 = .ok (.allow .grantPolicyFound) ∧
      unreachable.AnswersAlike ⟨0, 0⟩ reading ((), r) ((), r.change (.deletePolicy "library" "2")) ∧
      unreachable.AnswersAlike ⟨0, 0⟩ reading ((), r) ((), r.change (.deleteRolePolicy "library" "3")) ∧
      r.Refuses none { reading with service := "archive" } (.serviceNotFound "archive") := by
  intro r
  have alike : AnswerAlike (fun d _ => .error (.customFunction d.name)) r.Uses := fun _ _ _ _ hname _ =>
    congrArg (fun name => Except.error (Error.customFunction name)) hname
  have hfresh : r.Fresh := Registry.Fresh.change (r := {}) (fun _ _ h => nomatch h) (fun _ _ h => nomatch h)
    (.addService broken)
  let denial : Policy := { id := "2", effect := .deny, condition := some "request_action" }
  let grant : RolePolicy := { id := "3", effect := .grant, roles := ["reader"], condition := some "((" }
  obtain ⟨service, hservice, hdenial⟩ : ∃ service, r.service? "library" = some service ∧
      service.policies.get? "2" = some denial := Option.bind_eq_some_iff.mp (by decide +kernel)
  obtain ⟨service', hservice', hgrant⟩ : ∃ service, r.service? "library" = some service ∧
      service.rolePolicies.get? "3" = some grant := Option.bind_eq_some_iff.mp (by decide +kernel)
  obtain rfl := Option.some.inj (hservice.symm.trans hservice')
  have hfails : unreachable.Fails ⟨0, 0⟩ reading ((), r) denial := by
    refine ⟨"request_action", rfl, fun subject k hsubject hk => ?_⟩
    have hsubject : reading.subject = subject := Except.ok.inj hsubject
    subst hsubject
    have hresult : (CompiledCondition.compile "request_action" r.functions).toOption.map (fun k =>
        (k.evaluate unreachable.resolve 0 (Attributes.ofRequest ⟨0, 0⟩ reading.subject reading)
          ((), r.results)).1.toOption) = some none := by decide +kernel
    rw [hk] at hresult
    have hnone := Option.some.inj hresult
    dsimp only at hnone ⊢
    generalize (k.evaluate unreachable.resolve _ _ _).1 = result at hnone ⊢
    cases result with
    | error failure => exact ⟨failure, rfl⟩
    | ok held => cases hnone
  have hfails' : unreachable.Fails ⟨0, 0⟩ reading ((), r) grant :=
    Evaluator.fails_of_unparsed rfl (by decide +kernel)
  obtain ⟨-, hsame⟩ := unreachable.answers_without_failing unreachable_isPure () _ {} none () ⟨0, 0⟩ reading
  obtain ⟨hrefuses, -⟩ := unreachable.answers_without_failing unreachable_isPure () _ {} none () ⟨0, 0⟩
    { reading with service := "archive" }
  obtain ⟨hpolicies, hrolePolicies⟩ := hsame alike "library" service hservice
  refine ⟨by decide +kernel, ?_, ?_, ?_⟩
  · exact hpolicies denial hdenial hfails fun k hk => (hfresh "library" service hservice).policies "2" k hk
  · exact hrolePolicies grant hgrant hfails' fun k hk => (hfresh "library" service hservice).rolePolicies "3" k hk
  · exact hrefuses (.serviceNotFound "archive") (.inl (by decide +kernel))

/-- A policy is replaced by one whose condition cannot be parsed while that of the old one, compiled anew, waits. -/
def spoiled : List Action :=
  let policy (condition : String) : Policy := { id := "1", effect := .grant, condition := some condition }
  [.change (.addService { name := "library" }),
    .change (.addPolicy "library" (policy "request_action == 'read'")),
    .change (.addFunction { name := "opening" }),
    .ask .decision ⟨0, 0⟩ reading,
    .change (.addPolicy "library" (policy "((")),
    .publish]

/-- The condition of the old policy then counts for the new one. -/
theorem not_answersAlike_spoiled :
    let r := unreachable.after () spoiled
    let p : Policy := { id := "1", effect := .grant, condition := some "((" }
    (∃ service, r.service? "library" = some service ∧ service.policies.get? p.id = some p) ∧
      unreachable.Fails ⟨0, 0⟩ reading ((), r) p ∧
      (unreachable.isAllowed ⟨0, 0⟩ reading ((), r)).1 = .ok (.allow .grantPolicyFound) ∧
      (unreachable.isAllowed ⟨0, 0⟩ reading ((), r.change (.deletePolicy "library" p.id))).1 =
        .ok (.deny .noApplicablePolicies) := by
  intro r p
  exact ⟨Option.bind_eq_some_iff.mp (by decide +kernel), Evaluator.fails_of_unparsed rfl (by decide +kernel),
    by decide +kernel, by decide +kernel⟩

end Turnstile

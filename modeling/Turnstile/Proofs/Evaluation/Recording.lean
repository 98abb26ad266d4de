import Turnstile.Proofs.Evaluation.Agreement
import Turnstile.Proofs.Evaluation.Independence
import Turnstile.Proofs.Function.Computed

/-! Evaluators that log what is computed for functions. The log changes neither answers nor what is loaded. -/
namespace Turnstile
variable {σ α : Type}

namespace Inquiry

/-- The sessions differ by the log only. -/
structure Logged (s : Session (σ × List Computed)) (t : Session σ) : Prop where
  resolver : s.resolver.1 = t.resolver
  results : s.results = t.results
  compiled : s.compiled = t.compiled
  rolePolicies : s.rolePolicies = t.rolePolicies

variable {q : Inquiry} {resolve : Resolver σ} {now : Int}

private theorem agree_holdsCompiled (k : CompiledCondition) :
    Agree Logged (q.holdsCompiled ⟨resolve.recording, now⟩ k) (q.holdsCompiled ⟨resolve, now⟩ k) := by
  intro s t h
  have hstates : (s.resolver, s.results).1.1 = (t.resolver, t.results).1 ∧ s.results = t.results :=
    ⟨h.resolver, h.results⟩
  obtain ⟨hresult, hresolver, hresults⟩ := k.agree_evaluate
    (R := fun (x : (σ × List Computed) × ResultCache) (y : σ × ResultCache) => x.1.1 = y.1 ∧ x.2 = y.2)
    q.attributes (fun name d _ args x y hxy => by
      have hy : y = (x.1.1, x.2) := Prod.ext hxy.1.symm hxy.2.symm
      rw [hy]
      exact d.call_recording resolve now args x) _ _ hstates
  rw [holdsCompiled, holdsCompiled]
  generalize k.evaluate resolve.recording now q.attributes (s.resolver, s.results) = x,
    k.evaluate resolve now q.attributes (t.resolver, t.results) = y at hresult hresolver hresults ⊢
  obtain ⟨result, resolver, results⟩ := x
  obtain ⟨result', resolver', results'⟩ := y
  obtain rfl := hresult
  exact ⟨rfl, hresolver, hresults, h.compiled, h.rolePolicies⟩

theorem agree_holds_recording [Rule α] (service : LoadedService) (kind : RuleKind) (cache : RuleCache α)
    (a : α) : Agree Logged (q.holds ⟨resolve.recording, now⟩ service kind cache a)
      (q.holds ⟨resolve, now⟩ service kind cache a) := by
  rw [holds, holds]
  cases Rule.condition? a with
  | none => exact .pure true
  | some expression =>
    cases cache.condition? (Rule.id a) with
    | some k => exact agree_holdsCompiled k
    | none =>
      cases hc : CompiledCondition.compile expression q.functions with
      | error _ =>
        simp only [hc]
        exact .pure false
      | ok k =>
        simp only [hc]
        refine Agree.bind (fun s t h => ⟨rfl, h.resolver, h.results, ?_, h.rolePolicies⟩)
          fun _ => agree_holdsCompiled k
        exact congrArg (· ++ _) h.compiled

theorem agree_roles_recording :
    Agree Logged (q.roles ⟨resolve.recording, now⟩) (q.roles ⟨resolve, now⟩) :=
  agree_roles_of (fun service _ _ _ p _ => agree_holds_recording service _ _ p) fun _ _ _ h =>
    ⟨h.resolver, h.results, h.compiled, congrArg (· ++ _) h.rolePolicies⟩

theorem agree_matchedPolicies_recording (principals : List String) (request : Option (String × String)) :
    Agree Logged (q.matchedPolicies ⟨resolve.recording, now⟩ principals request)
      (q.matchedPolicies ⟨resolve, now⟩ principals request) :=
  agree_matchedPolicies_of fun service _ p _ => agree_holds_recording service _ _ p

end Inquiry

namespace Evaluator
variable (e : Evaluator σ)

/-- Answers the same, and logs what is computed. -/
def recording : Evaluator (σ × List Computed) where
  resolve := e.resolve.recording
  asserter := e.asserter

@[simp] theorem asserter_recording : e.recording.asserter = e.asserter := rfl

@[simp] theorem resolve_recording : e.recording.resolve = e.resolve.recording := rfl

/-- A state without its log. -/
def forget (s : (σ × List Computed) × Registry) : σ × Registry := (s.1.1, s.2)

variable (now : ClockTime) (request : Request)

private theorem agree_answer_recording {f : Surroundings (σ × List Computed) → Inquiry →
      Evaluation (σ × List Computed) α} {g : Surroundings σ → Inquiry → Evaluation σ α}
    (h : ∀ q, Agree Inquiry.Logged (f ⟨e.resolve.recording, now.seconds⟩ q) (g ⟨e.resolve, now.seconds⟩ q)) :
    Agree (fun s t => forget s = t) (e.recording.answer now request f) (e.answer now request g) := by
  intro s t hst
  obtain ⟨⟨resolver, log⟩, r⟩ := s
  obtain rfl := hst
  rw [answer, answer, forget, asserter_recording, resolve_recording]
  dsimp only
  cases r.inquire e.asserter now request with
  | error err => exact ⟨rfl, rfl⟩
  | ok q =>
    have hstart : Inquiry.Logged { resolver := (resolver, log), results := r.results }
        { resolver, results := r.results } := ⟨rfl, rfl, rfl, rfl⟩
    have hagree := h q _ _ hstart
    dsimp only
    generalize f ⟨e.resolve.recording, now.seconds⟩ q { resolver := (resolver, log), results := r.results } = x,
      g ⟨e.resolve, now.seconds⟩ q { resolver, results := r.results } = y at hagree ⊢
    obtain ⟨a, s⟩ := x
    obtain ⟨b, t⟩ := y
    obtain ⟨hresult, hresolver, hresults, hcompiled, -⟩ := hagree
    dsimp only at hresult hresolver hresults hcompiled ⊢
    rw [forget, hresult, hresolver, hresults, hcompiled]
    exact ⟨rfl, rfl⟩

theorem agree_diagnose_recording : Agree (fun s t => forget s = t) (e.recording.diagnose now request)
    (e.diagnose now request) :=
  e.agree_answer_recording now request fun _ => Inquiry.agree_decide_of Inquiry.agree_roles_recording
    Inquiry.agree_matchedPolicies_recording (fun _ _ h => h.rolePolicies) request

theorem agree_grantedRoles_recording : Agree (fun s t => forget s = t)
    (e.recording.grantedRoles now request) (e.grantedRoles now request) :=
  e.agree_answer_recording now request fun _ => Inquiry.agree_roles_recording.bind fun _ => .pure _

theorem agree_grantedPermissions_recording : Agree (fun s t => forget s = t)
    (e.recording.grantedPermissions now request) (e.grantedPermissions now request) :=
  e.agree_answer_recording now request fun _ => Inquiry.agree_permissions_of Inquiry.agree_roles_recording
    Inquiry.agree_matchedPolicies_recording

/-- The state after a run in which nobody applies updates and everything that is computed is logged. -/
def recorded (resolver : σ) (actions : List Action) : (σ × List Computed) × Registry :=
  e.recording.runAlone (resolver, []) actions

theorem recorded_concat (resolver : σ) (actions : List Action) (a : Action) :
    e.recorded resolver (actions ++ [a]) = e.recording.act (e.recorded resolver actions) a := by
  rw [recorded, recorded, runAlone, runAlone, List.foldl_append, List.foldl_cons, List.foldl_nil]

theorem forget_act (s : (σ × List Computed) × Registry) (a : Action) :
    forget (e.recording.act s a) = e.act (forget s) a := by
  cases a with
  | change m => rfl
  | publish => rfl
  | ask question now request =>
    cases question with
    | decision => exact (e.agree_diagnose_recording now request s _ rfl).2
    | diagnosis => exact (e.agree_diagnose_recording now request s _ rfl).2
    | roles => exact (e.agree_grantedRoles_recording now request s _ rfl).2
    | permissions => exact (e.agree_grantedPermissions_recording now request s _ rfl).2

/-- A run with a log is the run, apart from the log. -/
theorem forget_recorded (resolver : σ) (actions : List Action) :
    forget (e.recorded resolver actions) = e.runAlone resolver actions := by
  induction actions using List.reverseRecOn with
  | nil => rfl
  | append_singleton actions a ih =>
    rw [recorded_concat, forget_act, ih, runAlone, runAlone, List.foldl_append, List.foldl_cons, List.foldl_nil]

end Evaluator
end Turnstile

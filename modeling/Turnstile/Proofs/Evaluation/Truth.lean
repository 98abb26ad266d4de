import Turnstile.Proofs.Condition.Steady
import Turnstile.Proofs.Evaluation.Compilation
import Turnstile.Proofs.Evaluation.Decision
import Turnstile.Proofs.Function.Calls

/-! Whether rules hold, while the answers of calls are settled. The order in which rules are tried, and which
others are tried, then makes no difference. -/
namespace Turnstile
variable {σ α : Type}

/-- A condition that is kept for a rule may call the function. -/
def RuleCache.Uses [Rule α] (c : RuleCache α) (d : FunctionDefinition) : Prop :=
  ∃ a expression k, c.get? (Rule.id a) = some a ∧ Rule.condition? a = some expression ∧
    c.condition? (Rule.id a) = some k ∧ k.functions.Defines d

def LoadedService.Uses (s : LoadedService) (d : FunctionDefinition) : Prop :=
  s.policies.Uses d ∨ s.rolePolicies.Uses d

/-- A condition that the inquiry looks at may call the function. -/
def Inquiry.Uses (q : Inquiry) (d : FunctionDefinition) : Prop :=
  q.functions.Defines d ∨ ∃ s ∈ q.services, s.Uses d

/-- A condition that is kept in the registry, or one that is compiled anew, may call the function. -/
def Registry.Uses (r : Registry) (d : FunctionDefinition) : Prop :=
  r.functions.Defines d ∨ ∃ name s, r.service? name = some s ∧ s.Uses d

theorem Inquiry.Reads.uses {q : Inquiry} {r : Registry} (h : q.Reads r) {d : FunctionDefinition}
    (hd : q.Uses d) : r.Uses d := by
  rcases hd with hd | ⟨s, hs, hd⟩
  · rw [h.functions] at hd
    exact .inl hd
  · exact .inr ⟨s.name, s, (h.services s hs).1, hd⟩

/-- Where all conditions are fresh, only functions of the registry are called. -/
theorem Registry.Fresh.defines {r : Registry} (h : r.Fresh) {d : FunctionDefinition} (hd : r.Uses d) :
    r.functions.Defines d := by
  have hcache {α : Type} [Rule α] {cache : RuleCache α} (hfresh : cache.Fresh r.functions)
      (hd : cache.Uses d) : r.functions.Defines d := by
    obtain ⟨a, expression, k, ha, he, hk, hd⟩ := hd
    obtain ⟨-, hfunctions⟩ := hfresh _ k hk a expression ha he
    rw [← hfunctions]
    exact hd
  rcases hd with hd | ⟨name, s, hs, hd | hd⟩
  · exact hd
  · exact hcache (h name s hs).policies hd
  · exact hcache (h name s hs).rolePolicies hd

theorem Steady.preserves {τ : Type} {I : τ → Prop} {x : StateM τ α} (h : Steady I x) : Preserves I x := by
  obtain ⟨a, ha⟩ := h
  exact fun s hs => (ha s hs).2

/-- Identifiers and services do not tell whether a rule holds, nor do they change how calls are answered. -/
theorem Inquiry.holds_congr {β : Type} [Rule α] [Rule β] {w : Surroundings σ} {q : Inquiry}
    {services : List LoadedService} {cache : RuleCache α} {cache' : RuleCache β} {a : α} {b : β}
    (condition : Rule.condition? a = Rule.condition? b)
    (kept : cache.condition? (Rule.id a) = cache'.condition? (Rule.id b)) (service service' : LoadedService)
    (kind kind' : RuleKind) (s : Session σ) :
    (q.holds w service kind cache a s).1 = ({ q with services }.holds w service' kind' cache' b s).1 := by
  rw [holds, holds, condition, kept]
  cases Rule.condition? b with
  | none => rfl
  | some expression =>
    cases cache'.condition? (Rule.id b) with
    | some k => rfl
    | none =>
      cases hk : CompiledCondition.compile expression q.functions with
      | error _ => simp only [hk]
      | ok k =>
        simp only [hk]
        rfl

section Settled
variable {w : Surroundings σ} {answers value : FunctionDefinition → List Json → Except Error Json}
  {used : FunctionDefinition → Prop} {times : Int → Prop}
  (pure : w.resolve.IsPure answers) (alike : AnswerAlike answers used) (timely : times w.now)
include pure alike timely

private theorem steadyCalls {functions : FunctionTable} (h : ∀ d, functions.Defines d → used d) :
    CompiledCondition.SteadyCalls (Settled w.resolve used times value) w.resolve w.now functions :=
  fun name d hd args => ⟨value d args, fun _ hs =>
    ⟨hs d (h d ⟨name, hd⟩) w.now timely args, hs.call pure alike (h d ⟨name, hd⟩) timely args⟩⟩

/-- Whether a rule holds does not depend on the state. -/
theorem Rule.steady_holds [Rule α] {functions : FunctionTable} (h : ∀ d, functions.Defines d → used d)
    (attributes : Dict Json) (a : α) :
    Steady (Settled w.resolve used times value) (Rule.holds w functions attributes a) := by
  cases he : Rule.condition? a with
  | none =>
    refine ⟨true, fun s hs => ?_⟩
    rw [holds, he]
    exact ⟨rfl, hs⟩
  | some expression =>
    cases hc : CompiledCondition.compile expression functions with
    | error _ =>
      refine ⟨false, fun s hs => ?_⟩
      rw [holds, he]
      simp only [hc]
      exact ⟨trivial, hs⟩
    | ok k =>
      obtain ⟨-, rfl⟩ := CompiledCondition.of_compile hc
      have hcalls : CompiledCondition.SteadyCalls (Settled w.resolve used times value) w.resolve w.now
          k.functions := steadyCalls pure alike timely h
      obtain ⟨r, hr⟩ := k.steady_evaluate hcalls attributes
      refine ⟨r.toOption = some true, fun s hs => ?_⟩
      obtain ⟨hresult, hstate⟩ := hr s hs
      rw [holds, he]
      simp only [hc]
      generalize k.evaluate w.resolve w.now attributes s = answer at hresult hstate ⊢
      obtain ⟨result, t⟩ := answer
      obtain rfl := hresult
      exact ⟨rfl, hstate⟩

/-- Nor does it for a rule with a condition that is kept, whatever that is. -/
theorem Inquiry.steady_holds [Rule α] {q : Inquiry} (h : ∀ d, q.functions.Defines d → used d)
    {cache : RuleCache α} (hcache : ∀ d, cache.Uses d → used d) {a : α}
    (ha : cache.get? (Rule.id a) = some a) (service : LoadedService) (kind : RuleKind) :
    Steady (fun s : Session σ => Settled w.resolve used times value s.calls)
      (q.holds w service kind cache a) := by
  have hcompiled (k : CompiledCondition) (hk : ∀ d, k.functions.Defines d → used d) :
      Steady (fun s : Session σ => Settled w.resolve used times value s.calls) (q.holdsCompiled w k) := by
    have hcalls : CompiledCondition.SteadyCalls (Settled w.resolve used times value) w.resolve w.now
        k.functions := steadyCalls pure alike timely hk
    obtain ⟨r, hr⟩ := k.steady_evaluate hcalls q.attributes
    refine ⟨r.toOption = some true, fun s hs => ?_⟩
    obtain ⟨hresult, hstate⟩ := hr s.calls hs
    obtain ⟨t, hrun, hcalls, -⟩ := q.holdsCompiled_spec (w := w) k s
    rw [hrun, hresult]
    refine ⟨rfl, ?_⟩
    change Settled _ _ _ _ t.calls
    rw [hcalls]
    exact hstate
  rw [Inquiry.holds]
  cases he : Rule.condition? a with
  | none => exact ⟨true, fun _ hs => ⟨rfl, hs⟩⟩
  | some expression =>
    cases hk : cache.condition? (Rule.id a) with
    | some k => exact hcompiled k fun d hd => hcache d ⟨a, expression, k, ha, he, hk, hd⟩
    | none =>
      cases hc : CompiledCondition.compile expression q.functions with
      | error _ =>
        simp only [hc]
        exact ⟨false, fun _ hs => ⟨rfl, hs⟩⟩
      | ok k =>
        simp only [hc]
        obtain ⟨-, hfunctions⟩ := CompiledCondition.of_compile hc
        obtain ⟨b, hb⟩ := hcompiled k fun d hd => h d (hfunctions ▸ hd)
        exact ⟨b, fun s hs => hb _ hs⟩

variable {q : Inquiry} (orderly : ∀ service ∈ q.services, service.Orderly) (uses : ∀ d, q.Uses d → used d)
include orderly uses

/-- To ask for policies and roles leaves the answers of calls settled. -/
theorem Inquiry.settled_matchedPolicies (principals : List String) (request : Option (String × String)) :
    Preserves (fun s : Session σ => Settled w.resolve used times value s.calls)
      (q.matchedPolicies w principals request) := by
  refine preserves_matchedPolicies fun service hs p hp => Steady.preserves ?_
  have hp := (orderly service hs).policies.sound.get?_of_mem_related (List.mem_filter.mp hp).1
  exact steady_holds pure alike timely (fun d hd => uses d (.inl hd))
    (fun d hd => uses d (.inr ⟨service, hs, .inl hd⟩)) hp service .policy

theorem Inquiry.settled_roles :
    Preserves (fun s : Session σ => Settled w.resolve used times value s.calls) (q.roles w) := by
  refine preserves_roles (fun service hs principals seen p hp => Steady.preserves ?_) fun _ _ hs => hs
  have hp := (orderly service hs).rolePolicies.sound.get?_of_mem_related (List.mem_filter.mp hp).1
  exact steady_holds pure alike timely (fun d hd => uses d (.inl hd))
    (fun d hd => uses d (.inr ⟨service, hs, .inr hd⟩)) hp service .rolePolicy

end Settled
end Turnstile

import Turnstile.Proofs.Condition.Alike

/-! Conditions in states that make no difference to the functions they call. If every call gives one answer in
all states of an invariant and keeps the invariant, then so does every condition. -/
namespace Turnstile

/-- From all states of an invariant a computation gives one result, and it keeps the invariant. -/
def Steady {τ α : Type} (I : τ → Prop) (x : StateM τ α) : Prop :=
  ∃ a, ∀ s, I s → (x s).1 = a ∧ I (x s).2

section Steady
variable {τ α : Type} {I : τ → Prop} {x : StateM τ α}

/-- A steady computation agrees with itself. -/
theorem Steady.agree (h : Steady I x) : Agree (fun s t => I s ∧ I t) x x := by
  obtain ⟨a, ha⟩ := h
  rintro s t ⟨hs, ht⟩
  exact ⟨(ha s hs).1.trans (ha t ht).1.symm, (ha s hs).2, (ha t ht).2⟩

theorem Agree.steady [Nonempty α] (h : Agree (fun s t => I s ∧ I t) x x) : Steady I x := by
  by_cases hsome : ∃ s, I s
  · obtain ⟨t, ht⟩ := hsome
    exact ⟨(x t).1, fun s hs => ⟨(h s t ⟨hs, ht⟩).1, (h s t ⟨hs, ht⟩).2.1⟩⟩
  · exact ⟨Classical.ofNonempty, fun s hs => absurd ⟨s, hs⟩ hsome⟩

end Steady

namespace CompiledCondition
variable {σ : Type} {I : σ × ResultCache → Prop} {resolve : Resolver σ} {now : Int}

/-- The functions of a table that are computed elsewhere give one answer in all states of an invariant. -/
def SteadyCalls (I : σ × ResultCache → Prop) (resolve : Resolver σ) (now : Int) (functions : FunctionTable) :
    Prop :=
  ∀ name d, functions.get? name = some (.custom d) → ∀ args, Steady I (d.call resolve now args)

/-- Whether a condition holds does not depend on the state. -/
theorem steady_evaluate (k : CompiledCondition) (h : SteadyCalls I resolve now k.functions)
    (attributes : Dict Json) : Steady I (k.evaluate resolve now attributes) := by
  have : Nonempty (Except Condition.Failure Bool) := ⟨.ok true⟩
  exact (k.agree_evaluate attributes fun name d hd args => (h name d hd args).agree).steady

end CompiledCondition
end Turnstile

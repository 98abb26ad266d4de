import Turnstile.Proofs.Condition.Alike

/-! The calls that a condition makes. To note them changes nothing, and whatever holds before every call and is
kept by all of them is known about each. -/
namespace Turnstile
namespace Condition

/-- A call of a function that is not part of the language. -/
structure Called (σ : Type) where
  name : String
  args : List Value
  before : σ
  result : Except Fault Value
  after : σ

/-- The same names, with a note of every call. -/
def Scope.noting {σ : Type} (s : Scope σ) : Scope (σ × List (Called σ)) where
  values := s.values
  functions name := (s.functions name).map fun f args => fun (before, calls) =>
    let (result, after) := f args before
    (result, after, calls ++ [⟨name, args, before, result, after⟩])

namespace Scope
variable {σ : Type} (s : Scope σ)

/-- Notes do not change what is evaluated. -/
theorem alike_noting : s.noting.Alike (fun x y => x.1 = y) s := by
  refine ⟨rfl, fun name => ?_⟩
  rw [noting]
  dsimp only
  cases s.functions name with
  | none => exact .none
  | some f =>
    refine .some fun args x y hxy => ?_
    obtain ⟨before, calls⟩ := x
    obtain rfl := hxy
    exact ⟨.refl _, rfl⟩

variable {s} {I : σ → Prop} {Φ : Called σ → Prop}

/-- What every call keeps and ensures is kept and ensured by all that is noted. -/
theorem alike_noting_self (h : ∀ name f, s.functions name = some f → ∀ args before, I before →
      I (f args before).2 ∧ Φ ⟨name, args, before, (f args before).1, (f args before).2⟩) :
    s.noting.Alike (fun x y => x = y ∧ I x.1 ∧ ∀ c ∈ x.2, Φ c) s.noting := by
  refine ⟨rfl, fun name => ?_⟩
  rw [noting]
  dsimp only
  cases hf : s.functions name with
  | none => exact .none
  | some f =>
    refine .some fun args x y hxy => ?_
    obtain ⟨before, calls⟩ := x
    obtain ⟨rfl, hbefore, hcalls⟩ := hxy
    obtain ⟨hafter, hcall⟩ := h name f hf args before hbefore
    refine ⟨.refl _, rfl, hafter, fun c hc => ?_⟩
    rcases List.mem_append.mp hc with hc | hc
    · exact hcalls c hc
    · rw [List.mem_singleton.mp hc]
      exact hcall

end Scope
end Condition

namespace CompiledCondition
open Condition (Called Fault Value)
variable {σ : Type} (k : CompiledCondition) (resolve : Resolver σ) (now : Int) (attributes : Dict Json)
  (s : σ × ResultCache)

/-- A condition evaluated with notes of its calls. -/
def noted : Except Fault Value × (σ × ResultCache) × List (Called (σ × ResultCache)) :=
  k.program.eval (scope resolve now k.functions attributes).noting (s, [])

/-- The calls that a condition makes, in order. -/
def calls : List (Called (σ × ResultCache)) := (k.noted resolve now attributes s).2.2

theorem evaluate_eq_noted : k.evaluate resolve now attributes s =
    (k.verdict (k.noted resolve now attributes s).1, (k.noted resolve now attributes s).2.1) := by
  obtain ⟨hout, hstate⟩ := k.program.alike_eval _ _ (Condition.Scope.alike_noting
    (scope resolve now k.functions attributes)) (s, []) s rfl
  rw [evaluate_eq]
  exact Prod.ext (congrArg k.verdict hout.eq.symm) hstate.symm

variable {k resolve now attributes s} {I : σ × ResultCache → Prop}

/-- What all calls of custom functions keep holds before each of them and afterwards. -/
theorem calls_spec (h : ∀ name d, k.functions.get? name = some (.custom d) → ∀ args s, I s →
      I (d.call resolve now args s).2) (hs : I s) :
    I (k.evaluate resolve now attributes s).2 ∧ ∀ c ∈ k.calls resolve now attributes s, I c.before ∧
      ∃ f, k.functions.get? c.name = some f ∧
        callable resolve now c.name f c.args c.before = (c.result, c.after) := by
  have hscope := Condition.Scope.alike_noting_self (s := scope resolve now k.functions attributes) (I := I)
    (Φ := fun c => I c.before ∧ ∃ f, k.functions.get? c.name = some f ∧
      callable resolve now c.name f c.args c.before = (c.result, c.after)) fun name g hg args before hbefore => by
    obtain ⟨f, hf, rfl⟩ := Option.map_eq_some_iff.mp hg
    refine ⟨?_, hbefore, f, hf, rfl⟩
    have hkeeps : I (f.call resolve now (args.map Value.toJson) before).2 := by
      cases f with
      | builtin b => exact hbefore
      | custom d => exact h name d hf _ before hbefore
    rw [callable]
    generalize f.call resolve now (args.map Value.toJson) before = answer at hkeeps ⊢
    obtain ⟨result, after⟩ := answer
    cases result with
    | ok v => exact hkeeps
    | error e => exact hkeeps
  obtain ⟨-, -, hafter, hcalls⟩ := k.program.alike_eval _ _ hscope (s, []) (s, [])
    ⟨rfl, hs, List.forall_mem_nil _⟩
  rw [evaluate_eq_noted]
  exact ⟨hafter, hcalls⟩

/-- A call of a custom function gives what the function gives. -/
theorem call_of_callable {name : String} {d : FunctionDefinition} {args : List Value} {v : Value}
    {before after : σ × ResultCache}
    (h : callable resolve now name (.custom d) args before = (.ok v, after)) :
    ∃ json, v = Value.ofJson json ∧
      d.call resolve now (args.map Value.toJson) before = (.ok json, after) := by
  rw [callable, Function.call] at h
  generalize d.call resolve now (args.map Value.toJson) before = answer at h
  obtain ⟨result, t⟩ := answer
  cases result with
  | error e => cases h
  | ok json =>
    cases h
    exact ⟨json, rfl, rfl⟩

end CompiledCondition
end Turnstile

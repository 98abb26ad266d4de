import Mathlib.Data.List.Induction

/-! Histories grow at their end: what comes after some step of a history is split off with the last step. -/
namespace Turnstile

universe u

/-- The steps after one step of a history that has grown: either that step is the new one, and nothing comes after
it, or it is in the history as it was, and the new one comes last. -/
theorem concat_eq_append_cons_iff {α : Type u} {history earlier later : List α} {s x : α} :
    history ++ [s] = earlier ++ x :: later ↔
      history = earlier ∧ s = x ∧ later = [] ∨
        ∃ between, later = between ++ [s] ∧ history = earlier ++ x :: between := by
  constructor
  · intro hsplit
    rcases List.eq_nil_or_concat later with rfl | ⟨between, last, rfl⟩
    · obtain ⟨hearlier, hs⟩ := List.append_inj' hsplit rfl
      exact .inl ⟨hearlier, List.singleton_inj.mp hs, rfl⟩
    · rw [List.concat_eq_append, ← List.cons_append, ← List.append_assoc] at hsplit
      obtain ⟨hearlier, hs⟩ := List.append_inj' hsplit rfl
      obtain rfl := List.singleton_inj.mp hs
      exact .inr ⟨between, List.concat_eq_append, hearlier⟩
  · rintro (⟨rfl, rfl, rfl⟩ | ⟨between, rfl, rfl⟩)
    · rfl
    · rw [List.append_assoc, List.cons_append]

end Turnstile

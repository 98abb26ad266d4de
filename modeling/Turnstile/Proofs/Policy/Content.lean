import Turnstile.Proofs.Policy.Cache
import Turnstile.Registry.Service

/-! A rule cache with its content: the live rules, and the conditions compiled for them. -/
namespace Turnstile

namespace RuleCache
variable {α : Type} [Rule α] {functions : FunctionTable} {c : RuleCache α} {rules : Dict α}
  {a : α} {id i : String} {k : CompiledCondition}

/-- The cache finds the given rules, and a condition that it keeps is that of a rule, compiled for
the function table. -/
structure Keeps (functions : FunctionTable) (c : RuleCache α) (rules : Dict α) : Prop where
  sound : c.Sound
  entries : c.entries = rules
  conditions : ∀ id k, c.conditions.get? id = some k →
    ∃ a, rules.get? id = some a ∧ compiledCondition? functions a = some k

theorem keeps_empty : (empty : RuleCache α).Keeps functions .empty where
  sound := sound_empty
  entries := rfl
  conditions _ _ h := by cases h

theorem get?_conditions_remove (h : (c.remove id).conditions.get? i = some k) :
    c.conditions.get? i = some k ∧ (i = id → id ∉ c.entries) := by
  rw [remove] at h
  cases hid : c.entries.get? id with
  | none =>
    simp only [hid] at h
    exact ⟨h, fun _ => Dict.get?_eq_none_iff.mp hid⟩
  | some a =>
    simp only [hid, conditions_unlink, Dict.get?_erase] at h
    by_cases hi : i = id
    · rw [if_pos hi] at h
      cases h
    · rw [if_neg hi] at h
      exact ⟨h, fun he => absurd he hi⟩

theorem Keeps.remove (h : c.Keeps functions rules) (id : String) :
    (c.remove id).Keeps functions (rules.erase id) where
  sound := h.sound.remove id
  entries := Dict.ext_get? fun i => by
    rw [get?_entries_remove, Dict.get?_erase, h.entries]
  conditions i k hk := by
    obtain ⟨hk, hi⟩ := get?_conditions_remove hk
    obtain ⟨a, ha, hc⟩ := h.conditions i k hk
    refine ⟨a, ?_, hc⟩
    rw [Dict.get?_erase, if_neg, ha]
    rintro rfl
    exact hi rfl (h.entries ▸ Dict.mem_of_get? ha)

theorem get?_conditions_add (c : RuleCache α) (a : α) (condition : Option CompiledCondition)
    (i : String) : (c.add a condition).conditions.get? i =
      if i = Rule.id a ∧ condition.isSome then condition
      else (c.remove (Rule.id a)).conditions.get? i := by
  change (condition.elim (link (c.remove (Rule.id a)) a).conditions
    ((link (c.remove (Rule.id a)) a).conditions.insert (Rule.id a))).get? i = _
  rw [conditions_link]
  cases condition with
  | none => simp
  | some k => simp [Dict.get?_insert]

/-- A rule takes the place of the one with its identifier, and so does its condition. -/
theorem Keeps.add [CoveringRule α] (h : c.Keeps functions rules) (a : α) :
    (c.add a (compiledCondition? functions a)).Keeps functions (rules.insert (Rule.id a) a) where
  sound := h.sound.add a _
  entries := Dict.ext_get? fun i => by
    rw [get?_entries_add, Dict.get?_insert, h.entries]
  conditions i k hk := by
    rw [get?_conditions_add] at hk
    by_cases hi : i = Rule.id a ∧ (compiledCondition? functions a).isSome
    · rw [if_pos hi] at hk
      exact ⟨a, by rw [Dict.get?_insert, if_pos hi.1], hk⟩
    · rw [if_neg hi] at hk
      obtain ⟨a', ha, hc⟩ := (h.remove (Rule.id a)).conditions i k hk
      rw [Dict.get?_erase] at ha
      by_cases he : i = Rule.id a
      · rw [if_pos he] at ha
        cases ha
      · rw [if_neg he] at ha
        exact ⟨a', by rw [Dict.get?_insert, if_neg he, ha], hc⟩

/-- Without conditions the function table does not matter. -/
theorem Keeps.clearConditions (h : c.Keeps functions rules) (functions' : FunctionTable) :
    c.clearConditions.Keeps functions' rules where
  sound := h.sound.clearConditions
  entries := h.entries
  conditions _ _ hk := by cases hk

/-- Rules are kept under their identifiers. -/
theorem Keeps.get?_id (h : c.Keeps functions rules) (ha : a ∈ rules.values) :
    rules.get? (Rule.id a) = some a := by
  obtain ⟨id, hid⟩ := Dict.mem_values.mp ha
  rwa [h.sound.ids id a (h.entries ▸ hid)]

/-- What is compiled for a rule is compiled from the text of its condition. -/
theorem compile_of_compiledCondition? (h : compiledCondition? functions a = some k) :
    ∃ expression, Rule.condition? a = some expression ∧
      CompiledCondition.compile expression functions = .ok k := by
  rw [compiledCondition?] at h
  obtain ⟨expression, he, hcompile⟩ := Option.bind_eq_some_iff.mp h
  refine ⟨expression, he, ?_⟩
  cases hk : CompiledCondition.compile expression functions with
  | error _ =>
    rw [hk] at hcompile
    cases hcompile
  | ok k' =>
    rw [hk] at hcompile
    rw [Option.some.inj hcompile]

/-- A condition that is kept for a rule is what compiling its expression gives. -/
theorem Keeps.compile_eq (h : c.Keeps functions rules) (ha : rules.get? (Rule.id a) = some a)
    {expression : String} (he : Rule.condition? a = some expression)
    (hk : c.condition? (Rule.id a) = some k) :
    CompiledCondition.compile expression functions = .ok k := by
  obtain ⟨a', ha', hc⟩ := h.conditions _ _ hk
  obtain rfl := Option.some.inj (ha.symm.trans ha')
  obtain ⟨_, he', hcompile⟩ := compile_of_compiledCondition? hc
  obtain rfl := Option.some.inj (he.symm.trans he')
  exact hcompile

end RuleCache
end Turnstile

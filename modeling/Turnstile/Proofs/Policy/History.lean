import Turnstile.Proofs.Policy.Content
import Turnstile.Proofs.Policy.Coverage

/-! Rule caches after any history of changes: look-ups find what is live and concerns the question, and
nothing is left of a rule that is gone. -/
namespace Turnstile.RuleCache
variable {α : Type} [Rule α] {c : RuleCache α} {id i : String} {k : CompiledCondition}

/-- Conditions are kept for live rules only. -/
def Owned (c : RuleCache α) : Prop := ∀ id ∈ c.conditions, id ∈ c.entries

omit [Rule α] in
theorem owned_empty : (empty : RuleCache α).Owned := fun id h => absurd h (Dict.not_mem_empty id)

/-- The condition of a removed rule is removed, and no other one. -/
theorem Owned.get?_conditions_remove (h : c.Owned) (id i : String) :
    (c.remove id).conditions.get? i = if i = id then none else c.conditions.get? i := by
  rw [RuleCache.remove]
  cases hid : c.entries.get? id with
  | none =>
    by_cases hi : i = id
    · have hgone : id ∉ c.conditions := fun hk => Dict.get?_eq_none_iff.mp hid (h id hk)
      rw [if_pos hi, hi]
      exact Dict.get?_eq_none_iff.mpr hgone
    · rw [if_neg hi]
  | some a => rw [conditions_unlink, Dict.get?_erase]

theorem Owned.remove (h : c.Owned) (id : String) : (c.remove id).Owned := by
  intro i hi
  rw [Dict.mem_iff_isSome, h.get?_conditions_remove] at hi
  rw [Dict.mem_iff_isSome, get?_entries_remove]
  by_cases hid : i = id
  · rw [if_pos hid] at hi
    cases hi
  · rw [if_neg hid] at hi ⊢
    exact h i hi

/-- A rule brings its own condition along, or none. -/
theorem Owned.get?_conditions_add (h : c.Owned) (a : α) (condition : Option CompiledCondition)
    (i : String) : (c.add a condition).conditions.get? i =
      if i = Rule.id a then condition else c.conditions.get? i := by
  rw [RuleCache.get?_conditions_add, h.get?_conditions_remove]
  by_cases hi : i = Rule.id a
  · cases condition <;> simp [hi]
  · simp [hi]

theorem Owned.add (h : c.Owned) (a : α) (condition : Option CompiledCondition) :
    (c.add a condition).Owned := by
  intro i hi
  rw [Dict.mem_iff_isSome, h.get?_conditions_add] at hi
  rw [Dict.mem_iff_isSome, get?_entries_add]
  by_cases hid : i = Rule.id a
  · rw [if_pos hid]
    rfl
  · rw [if_neg hid] at hi ⊢
    exact h i hi

omit [Rule α] in
theorem get?_conditions_setCondition (c : RuleCache α) (id i : String) (k : CompiledCondition) :
    (c.setCondition id k).conditions.get? i =
      if i = id ∧ id ∈ c.entries then some k else c.conditions.get? i := by
  rw [RuleCache.setCondition]
  by_cases hid : c.entries.contains id = true
  · rw [if_pos hid]
    simp only [Dict.get?_insert, Dict.contains_iff.mp hid, and_true]
  · rw [if_neg hid, if_neg fun h => hid h.2]

omit [Rule α] in
@[simp] theorem entries_setCondition (c : RuleCache α) (id : String) (k : CompiledCondition) :
    (c.setCondition id k).entries = c.entries := by
  rw [RuleCache.setCondition]
  split <;> rfl

omit [Rule α] in
theorem Owned.setCondition (h : c.Owned) (id : String) (k : CompiledCondition) :
    (c.setCondition id k).Owned := by
  intro i hi
  rw [Dict.mem_iff_isSome, get?_conditions_setCondition] at hi
  rw [entries_setCondition]
  by_cases hid : i = id ∧ id ∈ c.entries
  · exact hid.1 ▸ hid.2
  · rw [if_neg hid] at hi
    exact h i hi

omit [Rule α] in
theorem Owned.clearConditions (c : RuleCache α) : c.clearConditions.Owned :=
  fun id h => absurd h (Dict.not_mem_empty id)

theorem Sound.setCondition (h : c.Sound) (id : String) (k : CompiledCondition) :
    (c.setCondition id k).Sound := by
  rw [RuleCache.setCondition]
  split
  · exact ⟨h.ids, h.everyone, h.principals, h.holds, h.holdsAt⟩
  · exact h

/-- The indexes hold the live rules, and conditions are kept for live rules only. -/
structure Orderly (c : RuleCache α) : Prop where
  sound : c.Sound
  owned : c.Owned

theorem orderly_empty : (empty : RuleCache α).Orderly := ⟨sound_empty, owned_empty⟩

theorem Orderly.add [CoveringRule α] (h : c.Orderly) (a : α) (condition : Option CompiledCondition) :
    (c.add a condition).Orderly := ⟨h.sound.add a condition, h.owned.add a condition⟩

theorem Orderly.remove (h : c.Orderly) (id : String) : (c.remove id).Orderly :=
  ⟨h.sound.remove id, h.owned.remove id⟩

theorem Orderly.setCondition (h : c.Orderly) (id : String) (k : CompiledCondition) :
    (c.setCondition id k).Orderly := ⟨h.sound.setCondition id k, h.owned.setCondition id k⟩

theorem Orderly.clearConditions (h : c.Orderly) : c.clearConditions.Orderly :=
  ⟨h.sound.clearConditions, Owned.clearConditions c⟩

/-- A change of a cache. -/
inductive Step (α : Type) where
  | add (a : α) (condition : Option CompiledCondition)
  | remove (id : String)
  | setCondition (id : String) (condition : CompiledCondition)
  | clearConditions

def step (c : RuleCache α) : Step α → RuleCache α
  | .add a condition => c.add a condition
  | .remove id => c.remove id
  | .setCondition id condition => c.setCondition id condition
  | .clearConditions => c.clearConditions

/-- What a history of changes makes of an empty cache. -/
def after (history : List (Step α)) : RuleCache α := history.foldl step empty

/-- The rules that a history of changes leaves: under each identifier the one that was added last, unless
it has been removed since. -/
def live (history : List (Step α)) : Dict α :=
  history.foldl (fun rules s =>
    match s with
    | .add a _ => rules.insert (Rule.id a) a
    | .remove id => rules.erase id
    | .setCondition .. | .clearConditions => rules) .empty

/-- The cache is in order, and has the rules that are live. -/
private structure Follows (c : RuleCache α) (rules : Dict α) : Prop where
  orderly : c.Orderly
  entries : c.entries = rules

private theorem follows_after [CoveringRule α] (history : List (Step α)) :
    (after history).Follows (live history) := by
  refine List.foldl_rel (r := Follows) ⟨orderly_empty, rfl⟩ ?_
  rintro s - c rules ⟨h, rfl⟩
  cases s with
  | add a condition =>
    refine ⟨h.add a condition, Dict.ext_get? fun i => ?_⟩
    rw [step, get?_entries_add, Dict.get?_insert]
  | remove id =>
    refine ⟨h.remove id, Dict.ext_get? fun i => ?_⟩
    rw [step, get?_entries_remove, Dict.get?_erase]
  | setCondition id k => exact ⟨h.setCondition id k, entries_setCondition ..⟩
  | clearConditions => exact ⟨h.clearConditions, rfl⟩

/-- The cache tells exactly what is live: a look-up finds the live rules that name no principal or one of
those given and that cover the resource, if one is given. -/
structure Exact (c : RuleCache α) (rules : Dict α) (principals : α → List String)
    (covers : String → α → Prop) : Prop where
  related : ∀ presented resource id a, (c.related presented resource).get? id = some a ↔
    rules.get? id = some a ∧ (principals a = [] ∨ ∃ q ∈ presented, q ∈ principals a) ∧
      ∀ name ∈ resource, covers name a
  size : c.size = rules.size
  isEmpty : c.isEmpty = true ↔ rules.size = 0
  gone : ∀ id, id ∉ rules → c.get? id = none ∧ c.condition? id = none ∧
    ∀ presented resource, id ∉ c.related presented resource

private theorem Follows.exact [CoveringRule α] {rules : Dict α} (h : c.Follows rules)
    {principals : α → List String} {covers : String → α → Prop}
    (hreaches : ∀ ps a, Reaches ps a ↔ principals a = [] ∨ ∃ q ∈ ps, q ∈ principals a)
    (hcovers : ∀ name a, Covers name a ↔ covers name a) : c.Exact rules principals covers where
  related presented resource id a := by
    rw [h.orderly.sound.get?_related, hreaches, h.entries]
    simp only [hcovers]
  size := congrArg Dict.size h.entries
  isEmpty := by
    rw [h.orderly.sound.isEmpty_iff, h.entries, ← Dict.isEmpty_iff, Dict.isEmpty, Dict.size,
      List.isEmpty_iff_length_eq_zero]
  gone id hid := by
    have hentry : c.entries.get? id = none := by rw [h.entries, Dict.get?_eq_none_iff.mpr hid]
    refine ⟨hentry, Dict.get?_eq_none_iff.mpr fun hk => ?_, fun presented resource hr => ?_⟩
    · exact Dict.get?_eq_none_iff.mp hentry (h.orderly.owned id hk)
    · obtain ⟨a, ha⟩ := Dict.mem_iff.mp hr
      have hlive := (h.orderly.sound.get?_related presented resource).mp ha
      rw [hentry] at hlive
      cases hlive.1

/-- After any history of changes both kinds of cache tell exactly what is live. -/
theorem exact_after :
    (∀ history : List (Step Policy), (after history).Exact (live history) (·.principals.flatten)
      fun resource p => p.permissions = [] ∨ ∃ q ∈ p.permissions, q.Covers resource) ∧
    ∀ history : List (Step RolePolicy), (after history).Exact (live history) (·.principals)
      fun resource p => p.Covers resource := by
  constructor
  · intro history
    apply (follows_after history).exact
    · exact fun _ _ => reaches_policy_iff
    · exact fun _ _ => covers_policy_iff
  · intro history
    apply (follows_after history).exact
    · exact fun _ _ => reaches_rolePolicy_iff
    · exact fun _ _ => covers_rolePolicy_iff

end Turnstile.RuleCache

import Turnstile.Proofs.Evaluation.Subtraction

/-! What is left of granted permissions, as a function of the set of denials: neither their order nor how often
one of them is listed matters, and denials that have been taken away once take nothing away again. -/
namespace Turnstile
namespace Permission
variable {g d : Permission} {resource : String} {denials others granted denied : List Permission}

/-- A denial applies to a resource if it names nothing, the resource, or an expression that is invalid or matches
the resource. -/
def AppliesTo (d : Permission) (resource : String) : Prop :=
  (d.resource = "" ∧ d.expression = "") ∨ d.resource = resource ∨
    (d.expression ≠ "" ∧ (Regex.parse? d.expression = none ∨ expressionMatches d.expression resource = true))

instance (d : Permission) (resource : String) : Decidable (d.AppliesTo resource) :=
  inferInstanceAs (Decidable (_ ∨ _ ∨ _))

/-- A match that an invalid expression counts for. -/
private theorem getD_expressionMatches? {e : String} : (expressionMatches? e resource).getD true = true ↔
    Regex.parse? e = none ∨ expressionMatches e resource = true := by
  rw [expressionMatches, expressionMatches?]
  cases Regex.parse? e with
  | none => exact ⟨fun _ => .inl rfl, fun _ => rfl⟩
  | some r => simp

theorem deniesResource_iff : d.deniesResource resource = true ↔ d.AppliesTo resource := by
  have hnamed : (!d.expression.isEmpty) = true ↔ d.expression ≠ "" := by
    rw [Bool.not_eq_true', Bool.eq_false_iff, Ne, String.isEmpty_iff]
  rw [deniesResource, Bool.or_eq_true, Bool.or_eq_true, Bool.and_eq_true, coversEverything, Bool.and_eq_true,
    String.isEmpty_iff, String.isEmpty_iff, decide_eq_true_eq, hnamed, getD_expressionMatches?, or_assoc, AppliesTo]

/-- Each granted permission loses what the denials that apply to it take away. -/
theorem subtractAll_eq_under :
    subtractAll granted denied = granted.filterMap fun g => g.under (denied.filter (·.AppliesTo g.resource)) := by
  rw [subtractAll]
  congr 1
  funext g
  rw [foldlM_subtract]
  congr 1
  apply List.filter_congr
  intro d _
  rw [Bool.eq_iff_iff, deniesResource_iff, decide_eq_true_eq]

theorem left_eq_filter (actions : List String) (denials : List Permission) :
    left actions denials = actions.filter fun a => ∀ d ∈ denials, a ∉ d.actions := by
  apply List.filter_congr
  intro a _
  rw [Bool.eq_iff_iff, decide_eq_true_eq, Bool.not_eq_true', List.any_eq_false]
  simp only [List.contains_iff_mem]

theorem under_eq_ite (g : Permission) (denials : List Permission) :
    g.under denials =
      if denials = [] then some g
      else if (∃ d ∈ denials, d.actions = []) ∨ left g.actions denials = [] then none
      else some { g with actions := left g.actions denials } := by
  simp only [under, Bool.or_eq_true, List.any_eq_true, List.isEmpty_iff]

private theorem any_of_mem_iff (p : Permission → Bool) (h : ∀ d, d ∈ others ↔ d ∈ denials) :
    others.any p = denials.any p := by
  rw [Bool.eq_iff_iff, List.any_eq_true, List.any_eq_true]
  exact exists_congr fun d => and_congr_left' (h d)

theorem left_of_mem_iff (actions : List String) (h : ∀ d, d ∈ others ↔ d ∈ denials) :
    left actions others = left actions denials := by
  apply List.filter_congr
  intro a _
  rw [any_of_mem_iff _ h]

theorem under_of_mem_iff (g : Permission) (h : ∀ d, d ∈ others ↔ d ∈ denials) : g.under others = g.under denials := by
  have hnone : others = [] ↔ denials = [] := by
    rw [List.eq_nil_iff_forall_not_mem, List.eq_nil_iff_forall_not_mem]
    exact forall_congr' fun d => not_congr (h d)
  simp only [under, any_of_mem_iff _ h, left_of_mem_iff _ h, hnone]

/-- Denials matter as a set. -/
theorem subtractAll_of_mem_iff (granted : List Permission) (h : ∀ d, d ∈ others ↔ d ∈ denials) :
    subtractAll granted others = subtractAll granted denials := by
  rw [subtractAll_eq_under, subtractAll_eq_under]
  congr 1
  funext g
  apply under_of_mem_iff
  intro d
  rw [List.mem_filter, List.mem_filter, h]

/-- Denials can be taken away in two goes. -/
theorem subtractAll_append (granted denials others : List Permission) :
    subtractAll granted (denials ++ others) = subtractAll (subtractAll granted denials) others := by
  rw [subtractAll, subtractAll, subtractAll, List.filterMap_filterMap]
  congr 1
  funext g
  exact List.foldlM_append

/-- A permission that no denial applies to stays as it is. One to which some denials apply keeps the actions that
none of them lists, in order; it is dropped if there are none, or if one of the denials has no actions. The same
denials in another order, or some of them twice, leave the same, and so they do when they are taken away again. -/
theorem subtractAll_exact (granted denied : List Permission) :
    (subtractAll granted denied = granted.filterMap fun g =>
      let applying := denied.filter (·.AppliesTo g.resource)
      let rest := g.actions.filter fun a => ∀ d ∈ applying, a ∉ d.actions
      if applying = [] then some g
      else if (∃ d ∈ applying, d.actions = []) ∨ rest = [] then none
      else some { g with actions := rest }) ∧
    (∀ others : List Permission, (∀ d, d ∈ others ↔ d ∈ denied) →
      subtractAll granted others = subtractAll granted denied) ∧
    subtractAll (subtractAll granted denied) denied = subtractAll granted denied := by
  refine ⟨?_, fun others h => subtractAll_of_mem_iff granted h, ?_⟩
  · simp only [subtractAll_eq_under, under_eq_ite, left_eq_filter]
  · rw [← subtractAll_append]
    apply subtractAll_of_mem_iff
    intro d
    rw [List.mem_append, or_self]

example : subtractAll [.onResource "/a" ["get", "put"], .onResource "/b" ["put"]] [.onResource "" ["put"]] =
    [.onResource "/a" ["get"]] := by decide

end Permission
end Turnstile

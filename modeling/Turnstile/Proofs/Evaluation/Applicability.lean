import Turnstile.Evaluation.Answer
import Turnstile.Proofs.Policy.Content
import Turnstile.Proofs.Policy.Coverage

/-! Which policies apply to a request, told from the policies alone: whom they concern, and whether
their conditions hold. An evaluation finds these with its indexes and its compiled conditions. -/
namespace Turnstile

/-- A policy concerns a request when it names no principal or one that is presented, one of its
permissions covers the resource, and both its principals and its permissions match as a whole. -/
def Policy.Concerns (presented : List String) (resource action : String) (p : Policy) : Prop :=
  (p.principals.flatten = [] ∨ ∃ a ∈ presented, a ∈ p.principals.flatten) ∧
    matchesPrincipals presented p.principals = true ∧
    (p.permissions = [] ∨ ∃ q ∈ p.permissions, q.Covers resource) ∧
    p.coversRequest resource action = true

instance (presented : List String) (resource action : String) (p : Policy) :
    Decidable (p.Concerns presented resource action) :=
  inferInstanceAs (Decidable (_ ∧ _))

namespace Inquiry
variable {σ : Type} {functions : FunctionTable} {service : LoadedService} {rules : Dict Policy}

/-- The candidates among the policies of a service are those that concern the request. -/
theorem candidates_eq (h : service.policies.Keeps functions rules) (presented : List String)
    (resource action : String) : candidates service presented (some (resource, action)) =
      rules.values.filter fun p => p.Concerns presented resource action := by
  change ((service.policies.related presented (some resource)).values.filter fun p =>
    matchesPrincipals presented p.principals && p.coversRequest resource action) = _
  rw [h.sound.values_related, List.filter_filter, h.entries]
  refine List.filter_congr fun p _ => ?_
  rw [Bool.eq_iff_iff, decide_eq_true_eq, Bool.and_eq_true, Bool.and_eq_true, decide_eq_true_eq,
    RuleCache.reaches_policy_iff, RuleCache.covers_policy_iff, Policy.Concerns]
  tauto

end Inquiry
end Turnstile

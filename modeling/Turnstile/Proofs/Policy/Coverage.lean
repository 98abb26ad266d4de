import Turnstile.Proofs.Policy.Cache

/-! What rules cover and whom they name, told from the rules alone. -/
namespace Turnstile

/-- An expression covers the resources that its shape tells; one of no simple shape has to be valid
and to match. -/
def ResourcePattern.Covers (resource expression : String) : ResourcePattern → Prop
  | .startsWith literal => literal <+: resource.toList
  | .endsWith literal => literal <:+ resource.toList
  | .everything => True
  | .generic => expressionMatches? expression resource = some true

instance (resource expression : String) :
    (shape : ResourcePattern) → Decidable (shape.Covers resource expression)
  | .startsWith _ => inferInstanceAs (Decidable (_ <+: _))
  | .endsWith _ => inferInstanceAs (Decidable (_ <:+ _))
  | .everything => inferInstanceAs (Decidable True)
  | .generic => inferInstanceAs (Decidable (_ = _))

/-- A permission covers every resource, or the one that it names, or those of its expression. -/
def Permission.Covers (resource : String) (p : Permission) : Prop :=
  (p.resource = "" ∧ p.expression = "") ∨ (p.resource ≠ "" ∧ p.resource = resource) ∨
    (p.expression ≠ "" ∧ (ResourcePattern.classify p.expression).Covers resource p.expression)

instance (resource : String) (p : Permission) : Decidable (p.Covers resource) :=
  inferInstanceAs (Decidable (_ ∨ _))

/-- A role policy covers every resource, or those that it names and those of its expressions. -/
def RolePolicy.Covers (resource : String) (p : RolePolicy) : Prop :=
  (p.resources = [] ∧ p.expressions = []) ∨ resource ∈ p.resources ∨
    ∃ e ∈ p.expressions, (ResourcePattern.classify e).Covers resource e

variable {resource : String}

theorem expressionMatches_iff {e : String} :
    expressionMatches e resource = true ↔ expressionMatches? e resource = some true := by
  rw [expressionMatches]
  cases expressionMatches? e resource <;> simp

theorem covers_bucket_expression {e : String} :
    (Coverage.expression e).bucket.Covers resource ↔
      (ResourcePattern.classify e).Covers resource e := by
  rw [Coverage.bucket]
  cases ResourcePattern.classify e with
  | startsWith literal => exact Iff.rfl
  | endsWith literal => exact Iff.rfl
  | everything => exact Iff.rfl
  | generic => exact expressionMatches_iff

/-- The coverage of a permission in the index is what the permission covers. -/
theorem Permission.exists_coverage_iff {p : Permission} :
    (∃ c ∈ p.coverage, c.bucket.Covers resource) ↔ p.Covers resource := by
  rw [coverage, coversEverything, Permission.Covers]
  simp only [List.mem_append, or_and_right, exists_or, or_assoc]
  refine or_congr ?_ (or_congr ?_ ?_)
  · by_cases h : p.resource = "" ∧ p.expression = ""
    · simp [h, Coverage.bucket, ResourceIndex.Bucket.Covers]
    · simp [h]
  · by_cases h : p.resource = ""
    · simp [h]
    · simp [h, Coverage.bucket, ResourceIndex.Bucket.Covers]
  · by_cases h : p.expression = ""
    · simp [h]
    · simp [h, covers_bucket_expression]

theorem RuleCache.covers_policy_iff {p : Policy} :
    RuleCache.Covers resource p ↔ p.permissions = [] ∨ ∃ q ∈ p.permissions, q.Covers resource := by
  have hcoverage : Rule.coverage p =
    if p.permissions.isEmpty then [.everything] else p.permissions.flatMap Permission.coverage := rfl
  simp only [RuleCache.Covers, RuleCache.buckets, List.mem_map, exists_exists_and_eq_and, hcoverage]
  by_cases h : p.permissions = []
  · simp [h, Coverage.bucket, ResourceIndex.Bucket.Covers]
  · simp only [List.isEmpty_iff, h, if_false, false_or, List.mem_flatMap, ← Permission.exists_coverage_iff]
    constructor
    · rintro ⟨c, ⟨q, hq, hc⟩, hr⟩
      exact ⟨q, hq, c, hc, hr⟩
    · rintro ⟨q, hq, c, hc, hr⟩
      exact ⟨c, ⟨q, hq, hc⟩, hr⟩

theorem RuleCache.reaches_policy_iff {presented : List String} {p : Policy} :
    RuleCache.Reaches presented p ↔
      p.principals.flatten = [] ∨ ∃ a ∈ presented, a ∈ p.principals.flatten := by
  have hprincipals : Rule.principals p = distinct p.principals.flatten := rfl
  simp only [RuleCache.Reaches, hprincipals, distinct_eq_nil_iff, mem_distinct]

theorem RuleCache.covers_rolePolicy_iff {p : RolePolicy} :
    RuleCache.Covers resource p ↔ p.Covers resource := by
  have hcoverage : Rule.coverage p = if p.coversEverything then [.everything]
    else p.resources.map .resource ++ p.expressions.map .expression := rfl
  simp only [RuleCache.Covers, RuleCache.buckets, List.mem_map, exists_exists_and_eq_and, hcoverage,
    RolePolicy.coversEverything, RolePolicy.Covers]
  by_cases h : p.resources = [] ∧ p.expressions = []
  · simp [h, Coverage.bucket, ResourceIndex.Bucket.Covers]
  · simp only [Bool.and_eq_true, List.isEmpty_iff, h, if_false, false_or, List.mem_append, or_and_right,
      exists_or, List.mem_map, exists_exists_and_eq_and, covers_bucket_expression]
    refine or_congr_left ?_
    simp only [Coverage.bucket, ResourceIndex.Bucket.Covers, exists_eq_right]

theorem RuleCache.reaches_rolePolicy_iff {presented : List String} {p : RolePolicy} :
    RuleCache.Reaches presented p ↔ p.principals = [] ∨ ∃ a ∈ presented, a ∈ p.principals := by
  have hprincipals : Rule.principals p = distinct p.principals := rfl
  simp only [RuleCache.Reaches, hprincipals, distinct_eq_nil_iff, mem_distinct]

end Turnstile

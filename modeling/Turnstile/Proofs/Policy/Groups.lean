import Turnstile.Evaluation.Matching
import Turnstile.Proofs.Policy.History

/-! Groups of principals and the index of single principals. A group is presented as a whole, and the empty group by
everybody. The index knows the principals of all groups together, and of an empty group nothing. -/
namespace Turnstile

theorem matchesPrincipals_iff {presented : List String} {groups : List (List String)} :
    matchesPrincipals presented groups = true ↔
      presented ≠ [] ∧ (groups = [] ∨ ∃ group ∈ groups, ∀ q ∈ group, q ∈ presented) := by
  simp only [matchesPrincipals, Bool.and_eq_true, Bool.not_eq_true', List.isEmpty_eq_false_iff, Bool.or_eq_true,
    List.isEmpty_iff, List.any_eq_true, List.all_eq_true, List.contains_iff_mem]

/-- Without an empty group, somebody who presents a group presents some principal of it. -/
theorem exists_presented_of_matchesPrincipals {presented : List String} {groups : List (List String)}
    (h : matchesPrincipals presented groups = true) (hgroups : [] ∉ groups) :
    groups.flatten = [] ∨ ∃ q ∈ presented, q ∈ groups.flatten := by
  obtain ⟨-, rfl | ⟨group, hgroup, hall⟩⟩ := matchesPrincipals_iff.mp h
  · exact .inl rfl
  · have hne : group ≠ [] := fun hnil => hgroups (hnil ▸ hgroup)
    obtain ⟨q, hq⟩ := List.exists_mem_of_ne_nil group hne
    exact .inr ⟨q, hall q hq, List.mem_flatten.mpr ⟨group, hgroup, hq⟩⟩

namespace RuleCache

/-- A live policy that matches the presented principals is found through them, unless it has an empty group next to
others, of whose principals none is presented. -/
theorem get?_related_of_matchesPrincipals_iff {history : List (Step Policy)} {id : String} {p : Policy}
    {presented : List String} (hlive : (live history).get? id = some p)
    (hmatches : matchesPrincipals presented p.principals = true) :
    ((after history).related presented none).get? id = some p ↔
      ([] ∈ p.principals → p.principals.flatten = [] ∨ ∃ q ∈ presented, q ∈ p.principals.flatten) := by
  have hunconfined : ∀ name ∈ (none : Option String),
      p.permissions = [] ∨ ∃ q ∈ p.permissions, q.Covers name := nofun
  rw [(exact_after.1 history).related, and_iff_right hlive, and_iff_left hunconfined]
  constructor
  · exact fun h _ => h
  · intro h
    by_cases hempty : [] ∈ p.principals
    · exact h hempty
    · exact exists_presented_of_matchesPrincipals hmatches hempty

/-- A policy with an empty group between two others. -/
def crowded : Policy := { id := "1", effect := .deny, principals := [["user:ann", "group:staff"], [], ["role:admin"]] }

/-- It takes the place of another policy, and its only neighbour goes. -/
def crowding : List (Step Policy) :=
  [.add { id := "1", effect := .grant, principals := [["user:bill"]] } none, .add { id := "2", effect := .grant } none,
    .add crowded none, .remove "2"]

theorem get?_related_of_matchesPrincipals_crowded : (live crowding).get? "1" = some crowded ∧
    matchesPrincipals ["group:staff"] crowded.principals = true ∧
    ((after crowding).related ["group:staff"] none).get? "1" = some crowded := by
  have hlive : (live crowding).get? "1" = some crowded := by decide +kernel
  have hmatches : matchesPrincipals ["group:staff"] crowded.principals = true := by decide
  exact ⟨hlive, hmatches, (get?_related_of_matchesPrincipals_iff hlive hmatches).mpr fun _ => by decide⟩

/-- Everybody presents the empty group, but who presents no other principal of the policy does not find it. -/
theorem not_mem_related_crowded : (live crowding).get? "1" = some crowded ∧
    matchesPrincipals ["user:bill"] crowded.principals = true ∧ "1" ∉ (after crowding).related ["user:bill"] none := by
  decide +kernel

end RuleCache
end Turnstile

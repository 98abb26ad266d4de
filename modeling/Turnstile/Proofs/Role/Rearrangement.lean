import Turnstile.Proofs.Role.Meaning

/-! The order in which things come to a resolution: a source lists the policies of an answer in some order, a policy
its roles and its principals, and a subject what it presents. The roles that are left depend on none of it. -/
namespace Turnstile

/-- The same policy with its roles and its principals in another order, or with some of them repeated. -/
structure RolePolicy.Rearranges (p p' : RolePolicy) : Prop extends p.Means p' where
  id : p.id = p'.id

/-- The same policies in another order, each of them rearranged. -/
def Rearranged (policies policies' : List RolePolicy) : Prop :=
  ∃ rearrange : RolePolicy → RolePolicy, (∀ p ∈ policies, p.Rearranges (rearrange p)) ∧
    (policies.map rearrange).Perm policies'

namespace Rearranged
variable {policies policies' : List RolePolicy} (h : Rearranged policies policies')
include h

theorem perm_ids : (policies.map (·.id)).Perm (policies'.map (·.id)) := by
  obtain ⟨rearrange, hrearrange, hperm⟩ := h
  have hids : policies.map (·.id) = (policies.map rearrange).map (·.id) := by
    rw [List.map_map]
    exact List.map_congr_left fun p hp => (hrearrange p hp).id
  rw [hids]
  exact hperm.map _

theorem sameRules {presented presented' : List String} (hpresented : ∀ q, q ∈ presented ↔ q ∈ presented') :
    SameRules policies presented policies' presented' := by
  obtain ⟨rearrange, hrearrange, hperm⟩ := h
  refine ⟨hpresented, fun p hp => ?_, fun p' hp' => ?_⟩
  · exact ⟨rearrange p, hperm.mem_iff.mp (List.mem_map_of_mem hp), (hrearrange p hp).toMeans⟩
  · obtain ⟨p, hp, rfl⟩ := List.mem_map.mp (hperm.mem_iff.mpr hp')
    exact ⟨p, hp, (hrearrange p hp).toMeans.symm⟩

end Rearranged

/-- A resolution is a function of the set of policies and the set of presented principals. Neither the order in
which a source lists policies matters, nor the order of roles and principals, nor how often a principal is
presented. -/
theorem resolve_of_rearranged {τ τ' : Type} {policies policies' : List RolePolicy} {presented presented' : List String}
    {source : RoleSource (StateM τ)} {source' : RoleSource (StateM τ')} (distinct : (policies.map (·.id)).Nodup)
    (rearranged : Rearranged policies policies') (same : ∀ q, q ∈ presented ↔ q ∈ presented')
    (serves : source.Serves policies) (serves' : source'.Serves policies') (t : τ) (t' : τ') :
    (source.resolve presented t).1 = (source'.resolve presented' t').1 :=
  RoleResolution.resolve_congr (rearranged.sameRules same) distinct (serves.servesFrom presented)
    (rearranged.perm_ids.nodup_iff.mp distinct) (serves'.servesFrom presented') t t'

/-- Two roles that grant each other, and one of them denies the other. -/
def quarrel : List RolePolicy :=
  [{ id := "1", effect := .grant, roles := ["a", "c"], principals := ["user:ann", "role:b"] },
    { id := "2", effect := .grant, roles := ["b"], principals := ["role:a"] },
    { id := "3", effect := .deny, roles := ["a"], principals := ["role:b", "role:d"] }]

/-- The order of the policies, and in them of roles and principals, reversed. -/
def quarrelReversed : List RolePolicy :=
  quarrel.reverse.map fun p => { p with roles := p.roles.reverse, principals := p.principals.reverse }

theorem resolve_of_rearranged_quarrel : (quarrel.map (·.id)).Nodup ∧ Rearranged quarrel quarrelReversed ∧
    (∀ q, q ∈ ["user:ann", "user:bill"] ↔ q ∈ ["user:bill", "user:ann", "user:bill"]) ∧
    (RoleSource.ofList quarrel).Serves quarrel ∧ (RoleSource.ofList quarrelReversed).Serves quarrelReversed ∧
    ((RoleSource.ofList quarrel).resolve ["user:ann", "user:bill"] ()).1 =
      ((RoleSource.ofList quarrelReversed).resolve ["user:bill", "user:ann", "user:bill"] ()).1 ∧
    ((RoleSource.ofList quarrel).resolve ["user:ann", "user:bill"] ()).1.toList = ["c"] := by
  have distinct : (quarrel.map (·.id)).Nodup := by decide
  have rearranged : Rearranged quarrel quarrelReversed := by
    refine ⟨fun p => { p with roles := p.roles.reverse, principals := p.principals.reverse }, fun p _ => ?_, ?_⟩
    · exact ⟨⟨rfl, fun r => List.mem_reverse.symm, fun q => List.mem_reverse.symm⟩, rfl⟩
    · rw [quarrelReversed, List.map_reverse]
      exact (List.reverse_perm _).symm
  have same (q : String) : q ∈ ["user:ann", "user:bill"] ↔ q ∈ ["user:bill", "user:ann", "user:bill"] := by
    simp only [List.mem_cons, List.not_mem_nil, or_false]
    tauto
  have serves := RoleSource.ofList_serves quarrel
  have serves' := RoleSource.ofList_serves quarrelReversed
  exact ⟨distinct, rearranged, same, serves, serves',
    resolve_of_rearranged distinct rearranged same serves serves' () (), by decide +kernel⟩

end Turnstile

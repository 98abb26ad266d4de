import Turnstile.Proofs.Role.Drawing

/-! A resolution depends on what policies mean only: their effects, and which roles and principals they name.
Neither the order of the policies, of their roles and of their principals matters, nor what their identifiers are,
as long as these are distinct. -/
namespace Turnstile

/-- The same effect on the same roles for the same principals. -/
structure RolePolicy.Means (p p' : RolePolicy) : Prop where
  effect : p.effect = p'.effect
  roles : ∀ r, r ∈ p.roles ↔ r ∈ p'.roles
  principals : ∀ q, q ∈ p.principals ↔ q ∈ p'.principals

/-- The same policies, as far as they mean something, and the same presented principals. -/
structure SameRules (policies : List RolePolicy) (presented : List String) (policies' : List RolePolicy)
    (presented' : List String) : Prop where
  presented : ∀ q, q ∈ presented ↔ q ∈ presented'
  left : ∀ p ∈ policies, ∃ p' ∈ policies', p.Means p'
  right : ∀ p' ∈ policies', ∃ p ∈ policies, p'.Means p

variable {policies policies' : List RolePolicy} {presented presented' : List String}

theorem RolePolicy.Means.refl (p : RolePolicy) : p.Means p := ⟨rfl, fun _ => Iff.rfl, fun _ => Iff.rfl⟩

namespace RolePolicy.Means
variable {p p' : RolePolicy} (h : p.Means p')
include h

theorem symm : p'.Means p := ⟨h.effect.symm, fun r => (h.roles r).symm, fun q => (h.principals q).symm⟩

theorem principals_eq_nil_iff : p.principals = [] ↔ p'.principals = [] := by
  simp only [List.eq_nil_iff_forall_not_mem, h.principals]

theorem names_iff {r : String} : p.Names r ↔ p'.Names r := h.principals _

section Presented
variable (hpresented : ∀ q, q ∈ presented ↔ q ∈ presented')
include hpresented

theorem isDirect_iff : p.IsDirect presented ↔ p'.IsDirect presented' := by
  simp only [IsDirect, h.principals_eq_nil_iff, h.principals, hpresented]

theorem isStray_iff : p.IsStray presented ↔ p'.IsStray presented' := by
  rw [IsStray, IsStray, h.principals, hpresented]

theorem roots_iff {q : String} : p.Roots presented q ↔ p'.Roots presented' q := by
  rw [Roots, Roots, h.principals_eq_nil_iff, h.principals, hpresented]

theorem calls_iff {r : String} : p.Calls presented r ↔ p'.Calls presented' r := by
  rw [Calls, Calls, h.names_iff, hpresented]

end Presented
end RolePolicy.Means

namespace SameRules

theorem refl (policies : List RolePolicy) (presented : List String) :
    SameRules policies presented policies presented :=
  ⟨fun _ => Iff.rfl, fun p hp => ⟨p, hp, .refl p⟩, fun p hp => ⟨p, hp, .refl p⟩⟩

theorem symm (h : SameRules policies presented policies' presented') :
    SameRules policies' presented' policies presented :=
  ⟨fun q => (h.presented q).symm, h.right, h.left⟩

/-- What some policy does some policy on the other side does. -/
theorem exists_iff (h : SameRules policies presented policies' presented') {P P' : RolePolicy → Prop}
    (hP : ∀ p p', p.Means p' → (P p ↔ P' p')) : (∃ p ∈ policies, P p) ↔ ∃ p ∈ policies', P' p := by
  constructor
  · rintro ⟨p, hp, hd⟩
    obtain ⟨p', hp', hm⟩ := h.left p hp
    exact ⟨p', hp', (hP p p' hm).mp hd⟩
  · rintro ⟨p', hp', hd⟩
    obtain ⟨p, hp, hm⟩ := h.right p' hp'
    exact ⟨p, hp, (hP p p' hm.symm).mpr hd⟩

theorem directlyDenied_iff (h : SameRules policies presented policies' presented') {r : String} :
    DirectlyDenied policies presented r ↔ DirectlyDenied policies' presented' r := by
  refine h.exists_iff fun p p' hm => ?_
  rw [hm.effect, hm.isDirect_iff h.presented, hm.roles]

private theorem granted_of_granted (h : SameRules policies presented policies' presented') {r : String}
    (hr : Granted policies presented r) : Granted policies' presented' r := by
  induction hr with
  | direct hp he hd hr hn =>
    obtain ⟨p', hp', hm⟩ := h.left _ hp
    exact .direct hp' (hm.effect ▸ he) ((hm.isDirect_iff h.presented).mp hd) ((hm.roles _).mp hr)
      (mt h.directlyDenied_iff.mpr hn)
  | through hp he hx _ hr hn ih =>
    obtain ⟨p', hp', hm⟩ := h.left _ hp
    exact .through hp' (hm.effect ▸ he) (hm.names_iff.mp hx) ih ((hm.roles _).mp hr)
      (mt h.directlyDenied_iff.mpr hn)

variable (h : SameRules policies presented policies' presented')
include h

theorem granted_iff {r : String} : Granted policies presented r ↔ Granted policies' presented' r :=
  ⟨h.granted_of_granted, h.symm.granted_of_granted⟩

variable {p p' : RolePolicy} (hm : p.Means p')
include hm

theorem applies_iff : p.Applies policies presented ↔ p'.Applies policies' presented' := by
  simp only [RolePolicy.Applies, hm.isDirect_iff h.presented, h.granted_iff, hm.names_iff]

theorem opens_iff {r : String} : p.Opens policies presented r ↔ p'.Opens policies' presented' r := by
  rw [RolePolicy.Opens, RolePolicy.Opens, hm.roles, h.directlyDenied_iff]

theorem draws_iff {kind : EdgeKind} {r q : String} :
    p.Draws policies presented kind r q ↔ p'.Draws policies' presented' kind r q := by
  cases kind with
  | parentPrincipals =>
    rw [RolePolicy.Draws, RolePolicy.Draws, hm.effect, h.opens_iff hm, hm.roots_iff h.presented]
  | parentRoles =>
    rw [RolePolicy.Draws, RolePolicy.Draws, hm.effect, h.opens_iff hm, hm.calls_iff h.presented]
  | childRoles =>
    rw [RolePolicy.Draws, RolePolicy.Draws, hm.effect, h.opens_iff hm, hm.calls_iff h.presented]
  | deniedRoles => rw [RolePolicy.Draws, RolePolicy.Draws, hm.effect, hm.calls_iff h.presented, hm.roles]
  | deniedByRoles => rw [RolePolicy.Draws, RolePolicy.Draws, hm.effect, hm.calls_iff h.presented, hm.roles]
  | deniedByPrincipals => rw [RolePolicy.Draws, RolePolicy.Draws, hm.effect, hm.roots_iff h.presented, hm.roles]

end SameRules

namespace RoleResolution

/-- Nothing that is settled tells the states apart. -/
structure Alike (s s' : RoleResolution) : Prop where
  graph : s.graph = s'.graph
  granted : s.granted = s'.granted
  denied : s.denied = s'.denied

namespace Alike
variable {s s' : RoleResolution}

theorem deny (h : s.Alike s') (role : String) : (s.deny role).Alike (s'.deny role) := by
  have hsame : s.graph.deny role s.granted = s'.graph.deny role s'.granted := by rw [h.graph, h.granted]
  exact ⟨congrArg Prod.fst hsame, congrArg Prod.snd hsame, h.denied⟩

theorem denyAll (h : s.Alike s') (roles : List String) :
    (roles.foldl RoleResolution.deny s).Alike (roles.foldl RoleResolution.deny s') := by
  induction roles generalizing s s' with
  | nil => exact h
  | cons role roles ih => exact ih (h.deny role)

theorem safe_eq (h : s.Alike s') : s.safe = s'.safe := by
  rw [safe, safe, h.graph, h.denied]

theorem settleSafe (h : s.Alike s') : s.settleSafe.Alike s'.settleSafe := by
  have hdenied := h.denyAll s.safe
  rw [RoleResolution.settleSafe, RoleResolution.settleSafe, ← h.safe_eq]
  exact ⟨hdenied.graph, hdenied.granted, by rw [hdenied.graph, hdenied.granted]⟩

theorem settleRest (h : s.Alike s') : s.settleRest.Alike s'.settleRest := by
  have hcleared : Alike { s with denied := .empty } { s' with denied := .empty } := ⟨h.graph, h.granted, rfl⟩
  rw [RoleResolution.settleRest, RoleResolution.settleRest, ← h.denied]
  exact hcleared.denyAll _

theorem settle (h : s.Alike s') (rounds : Nat) : (s.settle rounds).Alike (s'.settle rounds) := by
  induction rounds generalizing s s' with
  | zero => exact h
  | succ rounds ih =>
    rw [RoleResolution.settle, RoleResolution.settle, ← h.safe_eq]
    split
    · exact h.settleRest
    · exact ih h.settleSafe

end Alike

variable {τ τ' : Type} {source : RoleSource (StateM τ)} {source' : RoleSource (StateM τ')}
  (same : SameRules policies presented policies' presented')
  (distinct : (policies.map (·.id)).Nodup) (serves : source.ServesFrom policies presented)
  (distinct' : (policies'.map (·.id)).Nodup) (serves' : source'.ServesFrom policies' presented')
include same distinct serves distinct' serves'

/-- Sources of the same rules lead to one collection. -/
theorem alike_gather (t : τ) (t' : τ') : (source.gather presented t).1.Alike (source'.gather presented' t').1 := by
  have h := collected_gather_from distinct serves t
  have h' := collected_gather_from distinct' serves' t'
  have hgranted (r : String) : r ∈ (source.gather presented t).1.granted ↔
      r ∈ (source'.gather presented' t').1.granted := by
    rw [h.granted, h'.granted, same.granted_iff]
  refine ⟨RoleGraph.ext_edges (fun r => ?_) (fun kind r q => ?_), NameSet.ext hgranted, NameSet.ext fun r => ?_⟩
  · rw [h.settling.nodes, h'.settling.nodes, hgranted]
  · rw [mem_of_gather distinct serves, mem_of_gather distinct' serves', same.granted_iff, same.granted_iff]
    refine and_congr_right fun _ => and_congr_right fun _ => same.exists_iff fun p p' hm => ?_
    rw [same.applies_iff hm, same.draws_iff hm]
  · rw [h.denied, h'.denied, hgranted]
    refine and_congr_right fun _ => same.exists_iff fun p p' hm => ?_
    simp only [hm.effect, hm.isStray_iff same.presented, hgranted, hm.names_iff, hm.roles]

/-- The roles are then the same. -/
theorem resolve_congr (t : τ) (t' : τ') :
    (source.resolve presented t).1 = (source'.resolve presented' t').1 := by
  have h := alike_gather same distinct serves distinct' serves' t t'
  change ((source.gather presented t).1.settle ((source.gather presented t).1.granted.size + 1)).granted =
    ((source'.gather presented' t').1.settle ((source'.gather presented' t').1.granted.size + 1)).granted
  rw [h.granted]
  exact (h.settle _).granted

end RoleResolution
end Turnstile

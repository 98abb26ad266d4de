import Turnstile.Proofs.Role.Ancestry

/-! What a denial takes away, and what it leaves alone. The search below the denied role and the roles without
grants that are removed after it never reach a role that has a way up around the denied one. -/
namespace Turnstile

/-- What is left of a node when roles are lost: its principals are the same, and its edges lead to the other roles. -/
structure RoleNode.Pruned (lost : List String) (n n' : RoleNode) : Prop where
  parentPrincipals : n'.parentPrincipals = n.parentPrincipals
  deniedByPrincipals : n'.deniedByPrincipals = n.deniedByPrincipals
  parentRoles : ∀ r, r ∈ n'.parentRoles ↔ r ∈ n.parentRoles ∧ r ∉ lost
  childRoles : ∀ r, r ∈ n'.childRoles ↔ r ∈ n.childRoles ∧ r ∉ lost
  deniedRoles : ∀ r, r ∈ n'.deniedRoles ↔ r ∈ n.deniedRoles ∧ r ∉ lost
  deniedByRoles : ∀ r, r ∈ n'.deniedByRoles ↔ r ∈ n.deniedByRoles ∧ r ∉ lost

namespace RoleGraph
variable {g : RoleGraph} {granted : NameSet} {role r : String} {way : List String}

theorem pruned_restrict (n : RoleNode) : n.Pruned (g.lost role) (n.restrict (g.staying role)) := by
  have hkept (s : NameSet) (r : String) : r ∈ s.filter (fun r _ => g.staying role r) ↔ r ∈ s ∧ r ∉ g.lost role := by
    rw [NameSet.mem_filter, staying_iff]
  exact ⟨rfl, rfl, hkept _, hkept _, hkept _, hkept _⟩

theorem mem_nodes_of_mem_lost (h : r ∈ g.lost role) (hr : r ≠ role) : r ∈ g.nodes :=
  (deniableDescendants_spec ((List.mem_cons.mp h).resolve_left hr)).1

theorem not_mem_nodes_deny_self : role ∉ (g.deny role granted).1.nodes :=
  fun h => (mem_nodes_deny.mp h).2.1 List.mem_cons_self

/-- Of the granted roles those are gone that the graph has lost, and the denied one. -/
theorem mem_granted_deny_iff : r ∈ (g.deny role granted).2 ↔
    r ∈ granted ∧ r ≠ role ∧ (r ∈ g.nodes → r ∈ (g.deny role granted).1.nodes) := by
  rw [mem_granted_deny]
  refine and_congr_right fun _ => ?_
  constructor
  · rintro ⟨hlost, hheld⟩
    exact ⟨fun hr => hlost (hr ▸ List.mem_cons_self), fun hn => mem_nodes_deny.mpr ⟨hn, hlost, hheld hn⟩⟩
  · rintro ⟨hr, hstays⟩
    refine ⟨fun hlost => ?_, fun hn => (mem_nodes_deny.mp (hstays hn)).2.2⟩
    exact (mem_nodes_deny.mp (hstays (mem_nodes_of_mem_lost hlost hr))).2.1 hlost

/-- A role that has a way up around the denied role stays. -/
theorem IsWayUp.mem_nodes_deny (h : g.IsWayUp (· = role) r way) (granted : NameSet) :
    r ∈ (g.deny role granted).1.nodes :=
  ((supports_iff_exists_isWayUp.mpr ⟨way, h⟩).deny rfl).mem_nodes

/-- A denial never removes too much. The role itself goes; every other role that goes, from the graph or from the
granted ones, had no way up around it. The nodes that stay lose their edges to the denied role and to the
descendants that are lost with it, and nothing else; and no granted role goes but a removed one. -/
theorem deny_spares (g : RoleGraph) (role : String) (granted : NameSet) :
    let after := g.deny role granted
    (role ∉ after.1.nodes ∧ role ∉ after.2) ∧
    (∀ r, r ≠ role → r ∈ g.nodes ∧ r ∉ after.1.nodes ∨ r ∈ granted ∧ r ∉ after.2 →
      ¬ ∃ way, g.IsWayUp (· = role) r way) ∧
    (∀ r n', after.1.node? r = some n' → ∃ n, g.node? r = some n ∧ n.Pruned (g.lost role) n') ∧
    ∀ r, r ∈ after.2 ↔ r ∈ granted ∧ r ≠ role ∧ (r ∈ g.nodes → r ∈ after.1.nodes) := by
  intro after
  refine ⟨⟨not_mem_nodes_deny_self, fun h => (mem_granted_deny_iff.mp h).2.1 rfl⟩, ?_, fun r n' hn' => ?_,
    fun r => mem_granted_deny_iff⟩
  · rintro r hr hgone ⟨way, hway⟩
    have hstays : r ∈ after.1.nodes := hway.mem_nodes_deny granted
    rcases hgone with ⟨-, hgone⟩ | ⟨hgranted, hgone⟩
    · exact hgone hstays
    · exact hgone (mem_granted_deny_iff.mpr ⟨hgranted, hr, fun _ => hstays⟩)
  · have hstays : r ∈ after.1.nodes := Dict.mem_of_get? hn'
    refine ⟨g.edges r, node?_of_mem (RoleGraph.mem_nodes_deny.mp hstays).1, ?_⟩
    rw [← edges_of_node? hn', edges_deny hstays]
    exact pruned_restrict _

/-- A principal grants two roles. One of them grants three more, of which the first two grant each other in turn,
and the last is granted by the other one as well. Nothing grants a sixth one. -/
def orchard : RoleGraph := ⟨.ofList [
  ("r", { parentPrincipals := .ofList ["user:ann"], childRoles := .ofList ["a", "b", "c"] }),
  ("s", { parentPrincipals := .ofList ["user:ann"], childRoles := .ofList ["c"] }),
  ("a", { parentRoles := .ofList ["r"], childRoles := .ofList ["b"] }),
  ("b", { parentRoles := .ofList ["a", "r"], childRoles := .ofList ["a"], deniedRoles := .ofList ["c"] }),
  ("c", { parentRoles := .ofList ["r", "s"], deniedByRoles := .ofList ["b"] }),
  ("o", { deniedRoles := .ofList ["s"] })]⟩

/-- With the role its own descendants go, and the role that nothing granted; the shared one keeps its other grant. -/
theorem deny_spares_orchard :
    let after := orchard.deny "r" (.ofList ["a", "b", "c", "r", "s", "visitor"])
    after.2.toList = ["c", "s", "visitor"] ∧ after.1.nodes.keys = ["c", "s"] ∧
    ("b" ∈ orchard.nodes ∧ "b" ∉ after.1.nodes ∧ ¬ ∃ way, orchard.IsWayUp (· = "r") "b" way) ∧
    ("o" ∈ orchard.nodes ∧ "o" ∉ after.1.nodes ∧ ¬ ∃ way, orchard.IsWayUp (· = "r") "o" way) ∧
    ∃ n n', orchard.node? "c" = some n ∧ after.1.node? "c" = some n' ∧ n.Pruned ["r", "a", "b"] n' ∧
      n'.parentRoles.toList = ["s"] ∧ n'.deniedByRoles.toList = [] := by
  intro after
  obtain ⟨-, hgone, hpruned, -⟩ := deny_spares orchard "r" (.ofList ["a", "b", "c", "r", "s", "visitor"])
  have hb : "b" ∈ orchard.nodes ∧ "b" ∉ after.1.nodes := by decide +kernel
  have ho : "o" ∈ orchard.nodes ∧ "o" ∉ after.1.nodes := by decide +kernel
  have hlost : orchard.lost "r" = ["r", "a", "b"] := by decide +kernel
  have hc : "c" ∈ after.1.nodes := by decide +kernel
  obtain ⟨n', hn'⟩ := Dict.mem_iff.mp hc
  obtain ⟨n, hn, hprune⟩ := hpruned "c" n' hn'
  rw [hlost] at hprune
  have hleft : (after.1.node? "c").map (·.parentRoles.toList) = some ["s"] ∧
      (after.1.node? "c").map (·.deniedByRoles.toList) = some [] := by decide +kernel
  have hnode : after.1.node? "c" = some n' := hn'
  rw [hnode] at hleft
  exact ⟨by decide +kernel, by decide +kernel, ⟨hb.1, hb.2, hgone "b" (by decide) (.inl hb)⟩,
    ⟨ho.1, ho.2, hgone "o" (by decide) (.inl ho)⟩, n, n', hn, hnode, hprune, Option.some.inj hleft.1,
    Option.some.inj hleft.2⟩

end RoleGraph
end Turnstile

import Mathlib.Data.Finset.Card
import Mathlib.Tactic.Tauto
import Turnstile.Proofs.Dict
import Turnstile.Role.Graph

/-! The role graph after updates, restrictions and denials. A denial removes the role, roles that are
granted through removed roles only, and roles that nothing grants any more. -/
namespace Turnstile.RoleGraph

/-- The edges of a role; a role without a node has none. -/
def edges (g : RoleGraph) (role : String) : RoleNode := (g.node? role).getD {}

theorem contains_iff {g : RoleGraph} {r : String} : g.contains r = true ↔ r ∈ g.nodes := Iff.rfl

theorem edges_of_node? {g : RoleGraph} {r : String} {n : RoleNode} (h : g.node? r = some n) :
    g.edges r = n := by
  simp [edges, h]

theorem edges_of_not_mem {g : RoleGraph} {r : String} (h : r ∉ g.nodes) : g.edges r = {} := by
  rw [edges, node?, Dict.get?_eq_none_iff.mpr h, Option.getD_none]

theorem node?_of_mem {g : RoleGraph} {r : String} (h : r ∈ g.nodes) : g.node? r = some (g.edges r) := by
  obtain ⟨n, hn⟩ := Dict.mem_iff.mp h
  rw [edges_of_node? hn]
  exact hn

theorem edges_update (g : RoleGraph) (r j : String) (f : RoleNode → RoleNode) :
    (g.update r f).edges j = if j = r then f (g.edges j) else g.edges j := by
  simp only [edges, node?, update, Dict.get?_update]
  by_cases h : j = r
  · simp [h]
  · simp [h]

theorem mem_nodes_foldl_update {f : RoleNode → RoleNode} {roles : List String} {g : RoleGraph}
    {j : String} : j ∈ (roles.foldl (fun g r => g.update r f) g).nodes ↔ j ∈ roles ∨ j ∈ g.nodes := by
  induction roles generalizing g with
  | nil => simp
  | cons r roles ih =>
    rw [List.foldl_cons, ih, update, Dict.mem_update, List.mem_cons]
    tauto

/-- A change that adds names to one kind of edges adds them at the changed roles only. -/
theorem mem_edges_foldl_update {f : RoleNode → RoleNode} {kind : RoleNode → NameSet}
    {added : String → Prop} (hf : ∀ n q, q ∈ kind (f n) ↔ q ∈ kind n ∨ added q)
    {roles : List String} {g : RoleGraph} {j q : String} :
    q ∈ kind ((roles.foldl (fun g r => g.update r f) g).edges j) ↔
      q ∈ kind (g.edges j) ∨ j ∈ roles ∧ added q := by
  induction roles generalizing g with
  | nil => simp
  | cons r roles ih =>
    rw [List.foldl_cons, ih, edges_update, List.mem_cons]
    by_cases h : j = r
    · rw [if_pos h, hf]
      tauto
    · rw [if_neg h]
      tauto

section Restrict

theorem mem_nodes_restrictTo {g : RoleGraph} {keep : String → Bool} {r : String} :
    r ∈ (g.restrictTo keep).nodes ↔ r ∈ g.nodes ∧ keep r = true := by
  rw [restrictTo, Dict.mem_map, Dict.mem_filter, Dict.mem_iff]
  exact exists_and_right

theorem edges_restrictTo {g : RoleGraph} {keep : String → Bool} {r : String} (h : keep r = true) :
    (g.restrictTo keep).edges r = (g.edges r).restrict keep := by
  simp only [edges, node?, restrictTo, Dict.get?_map, Dict.get?_filter]
  cases g.nodes.get? r with
  | none => rfl
  | some n => simp [Option.filter, h]

theorem mem_edges_restrictTo (kind : RoleNode → NameSet) (kept : Prop) {g : RoleGraph}
    {keep : String → Bool} {r q : String} (he : kind {} = .empty)
    (hk : ∀ n, q ∈ kind (n.restrict keep) ↔ q ∈ kind n ∧ kept) :
    q ∈ kind ((g.restrictTo keep).edges r) ↔ keep r = true ∧ q ∈ kind (g.edges r) ∧ kept := by
  by_cases h : keep r = true
  · rw [edges_restrictTo h, hk]
    simp only [h, true_and]
  · have hr : r ∉ (g.restrictTo keep).nodes := fun hr => h (mem_nodes_restrictTo.mp hr).2
    rw [edges_of_not_mem hr, he]
    exact iff_of_false (Dict.not_mem_empty q) fun hq => h hq.1

variable {g : RoleGraph} {keep : String → Bool} {r q : String}

theorem mem_parentPrincipals_restrictTo : q ∈ ((g.restrictTo keep).edges r).parentPrincipals ↔
    keep r = true ∧ q ∈ (g.edges r).parentPrincipals := by
  rw [mem_edges_restrictTo (·.parentPrincipals) True rfl fun _ => (and_iff_left trivial).symm,
    and_true]

theorem mem_parentRoles_restrictTo : q ∈ ((g.restrictTo keep).edges r).parentRoles ↔
    keep r = true ∧ q ∈ (g.edges r).parentRoles ∧ keep q = true :=
  mem_edges_restrictTo (·.parentRoles) _ rfl fun _ => NameSet.mem_filter

theorem mem_deniedByRoles_restrictTo : q ∈ ((g.restrictTo keep).edges r).deniedByRoles ↔
    keep r = true ∧ q ∈ (g.edges r).deniedByRoles ∧ keep q = true :=
  mem_edges_restrictTo (·.deniedByRoles) _ rfl fun _ => NameSet.mem_filter

end Restrict

section Deniable
variable {g : RoleGraph}

/-- What is found below a role is granted by no principal, and by roles found or the role alone. -/
private def OnlyThrough (g : RoleGraph) (role : String) (found : List String) : Prop :=
  ∀ c ∈ found, c ∈ g.nodes ∧ (∀ q, q ∉ (g.edges c).parentPrincipals) ∧
    ∀ p ∈ (g.edges c).parentRoles, p = role ∨ p ∈ found

private theorem OnlyThrough.grow {role child : String} {found deeper : List String}
    (hc : OnlyThrough g role (found ++ [child])) (hd : OnlyThrough g child deeper) :
    OnlyThrough g role (found ++ child :: deeper) := by
  intro c h
  rw [List.append_cons, List.mem_append] at h
  rcases h with h | h
  · obtain ⟨hn, hq, hp⟩ := hc c h
    refine ⟨hn, hq, fun p hm => (hp p hm).imp_right fun h => ?_⟩
    rw [List.append_cons]
    exact List.mem_append_left _ h
  · obtain ⟨hn, hq, hp⟩ := hd c h
    refine ⟨hn, hq, fun p hm => .inr ?_⟩
    rcases hp p hm with rfl | hm
    · simp
    · simp [hm]

private theorem OnlyThrough.add {role child : String} {found : List String} {n : RoleNode}
    (h : OnlyThrough g role found) (hn : g.node? child = some n)
    (hq : n.parentPrincipals.isEmpty = true)
    (hp : (n.parentRoles.keys.all fun p => p = role || found.contains p) = true) :
    OnlyThrough g role (found ++ [child]) := by
  intro c hc
  rcases List.mem_append.mp hc with hc | hc
  · obtain ⟨hm, hq, hp⟩ := h c hc
    exact ⟨hm, hq, fun p hr => (hp p hr).imp_right (List.mem_append_left _)⟩
  · obtain rfl := List.mem_singleton.mp hc
    rw [edges_of_node? hn]
    refine ⟨Dict.mem_of_get? hn, Dict.isEmpty_iff.mp hq, fun p hr => ?_⟩
    have := List.all_eq_true.mp hp p (Dict.mem_keys.mpr hr)
    simp only [Bool.or_eq_true, decide_eq_true_eq, List.contains_iff_mem] at this
    exact this.imp_right (List.mem_append_left _)

private theorem onlyThrough_deniableFrom (fuel : Nat) (role : String) (visited : NameSet) :
    OnlyThrough g role (g.deniableFrom fuel role visited).1 := by
  have hnil (role : String) : OnlyThrough g role [] := fun c h => by simp at h
  induction fuel generalizing role visited with
  | zero => exact hnil role
  | succ fuel ih =>
    rw [deniableFrom]
    split
    · exact hnil role
    · refine List.foldlRecOn
        (motive := fun acc : List String × NameSet => OnlyThrough g role acc.1) _ _ (hnil role) ?_
      rintro ⟨found, visited⟩ h child -
      cases hn : g.node? child with
      | none => exact h
      | some n =>
        dsimp only
        split
        · next hc =>
          simp only [Bool.and_eq_true] at hc
          exact (h.add hn hc.1.2 hc.2).grow (ih child _)
        · exact h

/-- The descendants that a denial takes along have no principal to grant them, and nothing but the
denied role and one another to grant them either. -/
theorem deniableDescendants_spec {role c : String} (h : c ∈ g.deniableDescendants role) :
    c ∈ g.nodes ∧ (∀ q, q ∉ (g.edges c).parentPrincipals) ∧
      ∀ p ∈ (g.edges c).parentRoles, p = role ∨ p ∈ g.deniableDescendants role :=
  onlyThrough_deniableFrom _ _ _ c h

end Deniable

/-- The roles that a denial removes together with the edges to them. -/
def lost (g : RoleGraph) (role : String) : List String := role :: g.deniableDescendants role

/-- A principal or something that stays when a role is lost grants another one. -/
def Held (g : RoleGraph) (role r : String) : Prop :=
  (∃ q, q ∈ (g.edges r).parentPrincipals) ∨ ∃ p ∈ (g.edges r).parentRoles, p ∉ g.lost role

variable {g : RoleGraph} {granted : NameSet} {role r : String}

theorem Held.not_mem_lost (h : g.Held role r) (hr : r ≠ role) : r ∉ g.lost role := by
  intro hm
  obtain ⟨-, hq, hp⟩ := deniableDescendants_spec ((List.mem_cons.mp hm).resolve_left hr)
  rcases h with ⟨q, hq'⟩ | ⟨p, hp', hlost⟩
  · exact hq q hq'
  · exact hlost (List.mem_cons.mpr (hp p hp'))

/-- What a denial keeps of an edge set: the names that it does not remove. -/
def staying (g : RoleGraph) (role : String) (r : String) : Bool :=
  !(NameSet.ofList (g.lost role)).contains r

@[simp] theorem staying_iff : g.staying role r = true ↔ r ∉ g.lost role := by
  simp [staying]

private theorem isOrphaned_restrict_iff :
    ((g.edges r).restrict (g.staying role)).isOrphaned = false ↔ g.Held role r := by
  simp only [RoleNode.isOrphaned, RoleNode.restrict, Bool.and_eq_false_iff,
    Dict.isEmpty_eq_false_iff, NameSet.mem_filter, staying_iff, Held]
  exact or_comm

private theorem node?_left (h : r ∈ g.nodes) (hr : r ∉ g.lost role) :
    (g.restrictTo (g.staying role)).node? r = some ((g.edges r).restrict (g.staying role)) := by
  have hs : g.staying role r = true := staying_iff.mpr hr
  rw [node?_of_mem (mem_nodes_restrictTo.mpr ⟨h, hs⟩), edges_restrictTo hs]

private theorem node?_deny_iff {n : RoleNode} : (g.deny role granted).1.node? r = some n ↔
    (r ∈ g.nodes ∧ r ∉ g.lost role ∧ g.Held role r) ∧
      n = (g.edges r).restrict (g.staying role) := by
  change ((g.restrictTo (g.staying role)).nodes.filter fun _ n => !n.isOrphaned).get? r = some n ↔ _
  rw [Dict.get?_filter, Option.filter_eq_some_iff]
  constructor
  · rintro ⟨hn, ho⟩
    have hm := mem_nodes_restrictTo.mp (Dict.mem_of_get? hn)
    have hr := staying_iff.mp hm.2
    obtain rfl := Option.some.inj (hn.symm.trans (node?_left hm.1 hr))
    rw [Bool.not_eq_true', isOrphaned_restrict_iff] at ho
    exact ⟨⟨hm.1, hr, ho⟩, rfl⟩
  · rintro ⟨⟨hm, hr, ho⟩, rfl⟩
    refine ⟨node?_left hm hr, ?_⟩
    rwa [Bool.not_eq_true', isOrphaned_restrict_iff]

theorem mem_nodes_deny : r ∈ (g.deny role granted).1.nodes ↔
    r ∈ g.nodes ∧ r ∉ g.lost role ∧ g.Held role r := by
  rw [Dict.mem_iff]
  constructor
  · rintro ⟨n, hn⟩
    exact (node?_deny_iff.mp hn).1
  · intro h
    exact ⟨_, node?_deny_iff.mpr ⟨h, rfl⟩⟩

theorem edges_deny (h : r ∈ (g.deny role granted).1.nodes) :
    (g.deny role granted).1.edges r = (g.edges r).restrict (g.staying role) :=
  edges_of_node? (node?_deny_iff.mpr ⟨mem_nodes_deny.mp h, rfl⟩)

theorem mem_deniedByRoles_of_deny {d : String}
    (h : d ∈ ((g.deny role granted).1.edges r).deniedByRoles) : d ∈ (g.edges r).deniedByRoles := by
  by_cases hr : r ∈ (g.deny role granted).1.nodes
  · rw [edges_deny hr] at h
    exact (NameSet.mem_filter.mp h).1
  · rw [edges_of_not_mem hr] at h
    exact absurd h (Dict.not_mem_empty d)

theorem mem_granted_deny : r ∈ (g.deny role granted).2 ↔
    r ∈ granted ∧ r ∉ g.lost role ∧ (r ∈ g.nodes → g.Held role r) := by
  have hleft : (g.restrictTo (g.staying role)).contains r = true ↔ r ∈ g.nodes ∧ r ∉ g.lost role := by
    rw [contains_iff, mem_nodes_restrictTo, staying_iff]
  have hkept : (g.deny role granted).1.contains r = true ↔ _ := mem_nodes_deny
  change r ∈ Dict.filter (fun r _ => g.staying role r &&
    (!(g.restrictTo (g.staying role)).contains r || (g.deny role granted).1.contains r)) granted ↔ _
  rw [NameSet.mem_filter, Bool.and_eq_true, Bool.or_eq_true, Bool.not_eq_true', ← Bool.not_eq_true,
    hleft, hkept, staying_iff]
  by_cases hn : r ∈ g.nodes <;> by_cases hl : r ∈ g.lost role <;> simp [hn, hl]

section Support

/-- A chain of grants from a presented principal to the role, none of its roles denied. -/
inductive Supports (g : RoleGraph) (denied : String → Prop) : String → Prop where
  | root {r q : String} (hn : r ∈ g.nodes) (hd : ¬ denied r) (hq : q ∈ (g.edges r).parentPrincipals) :
      Supports g denied r
  | step {r p : String} (hn : r ∈ g.nodes) (hd : ¬ denied r) (hp : p ∈ (g.edges r).parentRoles)
      (hs : Supports g denied p) : Supports g denied r

theorem Supports.mem_nodes {denied : String → Prop} (h : g.Supports denied r) : r ∈ g.nodes := by
  cases h <;> assumption

/-- A denial leaves the chains that avoid it. -/
theorem Supports.deny {denied : String → Prop} (h : g.Supports denied r) (hx : denied role) :
    (g.deny role granted).1.Supports denied r := by
  have stays {r : String} (hn : r ∈ g.nodes) (hd : ¬ denied r) (hr : g.Held role r) :
      r ∉ g.lost role ∧ r ∈ (g.deny role granted).1.nodes := by
    have hlost : r ∉ g.lost role := hr.not_mem_lost fun he => hd (he ▸ hx)
    exact ⟨hlost, mem_nodes_deny.mpr ⟨hn, hlost, hr⟩⟩
  suffices r ∉ g.lost role ∧ (g.deny role granted).1.Supports denied r from this.2
  induction h with
  | @root r q hn hd hq =>
    obtain ⟨hlost, hn'⟩ := stays hn hd (.inl ⟨q, hq⟩)
    refine ⟨hlost, .root (q := q) hn' hd ?_⟩
    rw [edges_deny hn']
    exact hq
  | @step r p hn hd hp hs ih =>
    obtain ⟨hlost, hn'⟩ := stays hn hd (.inr ⟨p, hp, ih.1⟩)
    refine ⟨hlost, .step (p := p) hn' hd ?_ ih.2⟩
    rw [edges_deny hn']
    exact NameSet.mem_filter.mpr ⟨hp, staying_iff.mpr ih.1⟩

variable {denied s s' : NameSet}

theorem mem_supportStep : r ∈ g.supportStep denied s ↔ r ∈ g.nodes ∧ r ∉ denied ∧
    ((∃ q, q ∈ (g.edges r).parentPrincipals) ∨ ∃ p ∈ (g.edges r).parentRoles, p ∈ s) := by
  rw [supportStep, Dict.mem_map, Dict.mem_filter]
  constructor
  · rintro ⟨n, hn, h⟩
    rw [edges_of_node? hn]
    simp only [Bool.and_eq_true, Bool.or_eq_true, Bool.not_eq_true', Dict.contains_eq_false_iff,
      Dict.isEmpty_eq_false_iff, List.any_eq_true, Dict.mem_keys, Dict.contains_iff] at h
    exact ⟨Dict.mem_of_get? hn, h⟩
  · rintro ⟨hn, h⟩
    refine ⟨_, node?_of_mem hn, ?_⟩
    simpa only [Bool.and_eq_true, Bool.or_eq_true, Bool.not_eq_true', Dict.contains_eq_false_iff,
      Dict.isEmpty_eq_false_iff, List.any_eq_true, Dict.mem_keys, Dict.contains_iff] using h

private theorem supportStep_mono (h : ∀ r, r ∈ s → r ∈ s') (hr : r ∈ g.supportStep denied s) :
    r ∈ g.supportStep denied s' := by
  obtain ⟨hn, hd, hs⟩ := mem_supportStep.mp hr
  exact mem_supportStep.mpr ⟨hn, hd, hs.imp_right fun ⟨p, hp, hm⟩ => ⟨p, hp, h p hm⟩⟩

/-- The roles that are found to be supported after a number of steps. -/
def supportRounds (g : RoleGraph) (denied : NameSet) (n : Nat) : NameSet :=
  (List.range n).foldl (fun s _ => g.supportStep denied s) .empty

theorem supportRounds_succ (n : Nat) :
    g.supportRounds denied (n + 1) = g.supportStep denied (g.supportRounds denied n) := by
  rw [supportRounds, List.range_succ, List.foldl_append, List.foldl_cons, List.foldl_nil,
    supportRounds]

private theorem supports_of_mem_supportRounds {n : Nat} (h : r ∈ g.supportRounds denied n) :
    g.Supports (· ∈ denied) r := by
  induction n generalizing r with
  | zero => exact absurd h (Dict.not_mem_empty r)
  | succ n ih =>
    rw [supportRounds_succ] at h
    obtain ⟨hn, hd, ⟨q, hq⟩ | ⟨p, hp, hm⟩⟩ := mem_supportStep.mp h
    · exact .root hn hd hq
    · exact .step hn hd hp (ih hm)

theorem supportRounds_le (n : Nat) (h : r ∈ g.supportRounds denied n) :
    r ∈ g.supportRounds denied (n + 1) := by
  induction n generalizing r with
  | zero => exact absurd h (Dict.not_mem_empty r)
  | succ n ih =>
    rw [supportRounds_succ] at h ⊢
    exact supportStep_mono (fun _ => ih) h

private abbrev Closed (g : RoleGraph) (denied s : NameSet) : Prop :=
  ∀ r, r ∈ g.supportStep denied s → r ∈ s

/-- Every round that does not end the search finds a role. -/
private theorem le_card_or_closed (g : RoleGraph) (denied : NameSet) (n : Nat) :
    n ≤ (g.supportRounds denied n).keys.toFinset.card ∨
      g.Closed denied (g.supportRounds denied n) := by
  induction n with
  | zero => exact .inl (Nat.zero_le _)
  | succ n ih =>
    by_cases hc : g.Closed denied (g.supportRounds denied n)
    · refine .inr fun r hr => ?_
      rw [supportRounds_succ] at hr ⊢
      exact supportStep_mono (fun r hm => hc r hm) hr
    · obtain ⟨r, hr⟩ := Classical.not_forall.mp hc
      obtain ⟨hr, hnot⟩ := Classical.not_imp.mp hr
      rw [← supportRounds_succ] at hr
      refine .inl (Nat.succ_le_of_lt (lt_of_le_of_lt (ih.resolve_right hc) ?_))
      apply Finset.card_lt_card
      rw [Finset.ssubset_iff_of_subset]
      · exact ⟨r, by simpa using hr, by simpa using hnot⟩
      · intro a ha
        simp only [List.mem_toFinset, Dict.mem_keys] at ha ⊢
        exact supportRounds_le n ha

private theorem closed_supported : g.Closed denied (g.supported denied) := by
  rcases le_card_or_closed g denied g.size with h | h
  · intro r hr
    have hsub : (g.supportRounds denied g.size).keys.toFinset ⊆ g.nodes.keys.toFinset := by
      intro a ha
      simp only [List.mem_toFinset, Dict.mem_keys] at ha ⊢
      cases supports_of_mem_supportRounds ha <;> assumption
    have hcard : g.nodes.keys.toFinset.card ≤ g.size :=
      (List.toFinset_card_le _).trans_eq (List.length_map ..)
    have hr : r ∈ g.nodes.keys.toFinset := by simpa using (mem_supportStep.mp hr).1
    rw [← Finset.eq_of_subset_of_card_le hsub (hcard.trans h)] at hr
    exact Dict.mem_keys.mp (List.mem_toFinset.mp hr)
  · exact h

/-- The search for support finds exactly the roles with a chain of grants. -/
theorem isUnsupported_eq_false_iff : g.isUnsupported r denied = false ↔ g.Supports (· ∈ denied) r := by
  rw [isUnsupported, Bool.not_eq_false', Dict.contains_iff]
  refine ⟨fun h => supports_of_mem_supportRounds h, fun h => ?_⟩
  induction h with
  | root hn hd hq => exact closed_supported _ (mem_supportStep.mpr ⟨hn, hd, .inl ⟨_, hq⟩⟩)
  | step hn hd hp _ ih => exact closed_supported _ (mem_supportStep.mpr ⟨hn, hd, .inr ⟨_, hp, ih⟩⟩)

theorem canSafelyDeny_iff : g.canSafelyDeny r denied = true ↔
    ∃ d ∈ (g.edges r).deniedByRoles, g.Supports (· ∈ denied) d := by
  simp only [canSafelyDeny, Option.any_eq_true, List.any_eq_true, Dict.mem_keys, Bool.not_eq_true',
    isUnsupported_eq_false_iff]
  constructor
  · rintro ⟨n, hn, d, hd, hs⟩
    rw [edges_of_node? hn]
    exact ⟨d, hd, hs⟩
  · rintro ⟨d, hd, hs⟩
    by_cases hn : r ∈ g.nodes
    · exact ⟨_, node?_of_mem hn, d, hd, hs⟩
    · rw [edges_of_not_mem hn] at hd
      exact absurd hd (Dict.not_mem_empty d)

theorem mem_deniedRoles : r ∈ g.deniedRoles granted ↔
    r ∈ granted ∧ ∃ d, d ∈ (g.edges r).deniedByRoles := by
  rw [deniedRoles, Dict.mem_map, Dict.mem_filter]
  simp only [Bool.and_eq_true, Bool.not_eq_true', Dict.isEmpty_eq_false_iff, Dict.contains_iff]
  constructor
  · rintro ⟨n, hn, hd, hg⟩
    rw [edges_of_node? hn]
    exact ⟨hg, hd⟩
  · rintro ⟨hg, d, hd⟩
    by_cases hn : r ∈ g.nodes
    · exact ⟨_, node?_of_mem hn, ⟨d, hd⟩, hg⟩
    · rw [edges_of_not_mem hn] at hd
      exact absurd hd (Dict.not_mem_empty d)

end Support

end Turnstile.RoleGraph

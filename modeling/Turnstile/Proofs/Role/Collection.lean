import Turnstile.Proofs.Role.Gathering

/-! Denies that are applied add edges to the graph and mark roles, and change nothing else. The roles
that are collected are those that policies grant, with every denial among them. -/
namespace Turnstile.RoleResolution
variable {policies : List RolePolicy} {presented : List String} {s s' : RoleResolution}

section Deny
variable {p : RolePolicy} {r q : String}

/-- The graph with the edges of a denying policy. -/
private def denyEdges (s : RoleResolution) (p : RolePolicy) : RoleGraph :=
  p.roles.foldl (fun g r => g.update r (addDeniers (s.split p).1 (s.split p).2))
    ((s.split p).2.foldl (fun g r => g.update r (addDenied p.roles)) s.graph)

/-- One deny, which is noted before it is applied. -/
private abbrev denyNoted (s : RoleResolution) (p : RolePolicy) : RoleResolution :=
  { s with seen := s.seen.add p.id }.applyDeny p

/-- A deny without roots marks the granted roles, which may still escape it. -/
private theorem denyNoted_of_rootless (h : ¬ ∃ q, q ∈ (s.split p).1) : denyNoted s p =
    { s with
      seen := s.seen.add p.id
      graph := s.denyEdges p
      denied := s.denied.addAll (p.roles.filter s.granted.contains) } := by
  have hs : (s.split p).1.isEmpty = true :=
    List.isEmpty_iff.mpr (List.eq_nil_iff_forall_not_mem.mpr (not_exists.mp h))
  exact if_pos hs

private theorem denyNoted_of_root (h : ∃ q, q ∈ (s.split p).1) : denyNoted s p =
    { s with
      seen := s.seen.add p.id
      graph := s.denyEdges p
      directlyDenied := s.directlyDenied.addAll p.roles } := by
  obtain ⟨q, hq⟩ := h
  have hs : ¬ (s.split p).1.isEmpty = true := fun h => by simp [List.isEmpty_iff.mp h] at hq
  exact if_neg hs

private theorem mem_nodes_denyEdges (h : r ∈ s.graph.nodes) : r ∈ (s.denyEdges p).nodes :=
  RoleGraph.mem_nodes_foldl_update.mpr (.inr (RoleGraph.mem_nodes_foldl_update.mpr (.inr h)))

private theorem graph_applyDeny : (s.applyDeny p).graph = s.denyEdges p := by
  rw [applyDeny, denyEdges]
  dsimp only
  split <;> rfl

/-- A deny adds edges at the roles that it names, and at its roles. -/
theorem mem_edges_applyDeny {kind : RoleNode → NameSet} (down up : String → Prop)
    (hd : ∀ n q, q ∈ kind (addDenied p.roles n) ↔ q ∈ kind n ∨ down q)
    (hr : ∀ n q, q ∈ kind (addDeniers (s.split p).1 (s.split p).2 n) ↔ q ∈ kind n ∨ up q) :
    q ∈ kind ((s.applyDeny p).graph.edges r) ↔
      q ∈ kind (s.graph.edges r) ∨ r ∈ (s.split p).2 ∧ down q ∨ r ∈ p.roles ∧ up q := by
  rw [graph_applyDeny, denyEdges, RoleGraph.mem_edges_foldl_update hr, RoleGraph.mem_edges_foldl_update hd,
    or_assoc]

private theorem mem_edges_denyEdges {kind : RoleNode → NameSet} (added : String → Prop)
    (hd : ∀ n, kind (addDenied p.roles n) = kind n)
    (hr : ∀ n q, q ∈ kind (addDeniers (s.split p).1 (s.split p).2 n) ↔ q ∈ kind n ∨ added q) :
    q ∈ kind ((s.denyEdges p).edges r) ↔ q ∈ kind (s.graph.edges r) ∨ r ∈ p.roles ∧ added q := by
  rw [← graph_applyDeny, mem_edges_applyDeny (fun _ => False) added (fun n q => by rw [hd, or_false]) hr,
    and_false, false_or]

private theorem mem_parents_denyEdges {kind : RoleNode → NameSet}
    (hd : ∀ n, kind (addDenied p.roles n) = kind n)
    (hr : ∀ n, kind (addDeniers (s.split p).1 (s.split p).2 n) = kind n) :
    q ∈ kind ((s.denyEdges p).edges r) ↔ q ∈ kind (s.graph.edges r) := by
  rw [mem_edges_denyEdges (fun _ => False) hd fun n q => by rw [hr, or_false], and_false, or_false]

end Deny

/-- What a number of denies changes: the denials that they cause are added. -/
structure Denying (s s' : RoleResolution) (applied : RolePolicy → Prop) : Prop where
  rooted : s'.rooted = s.rooted
  granted : s'.granted = s.granted
  nodes : ∀ r ∈ s.graph.nodes, r ∈ s'.graph.nodes
  principals : ∀ r q, q ∈ (s'.graph.edges r).parentPrincipals ↔ q ∈ (s.graph.edges r).parentPrincipals
  roles : ∀ r q, q ∈ (s'.graph.edges r).parentRoles ↔ q ∈ (s.graph.edges r).parentRoles
  seen : ∀ id, id ∈ s'.seen ↔ id ∈ s.seen ∨ ∃ p, applied p ∧ p.id = id
  deniers : ∀ r d, d ∈ (s'.graph.edges r).deniedByRoles ↔
    d ∈ (s.graph.edges r).deniedByRoles ∨ ∃ p, applied p ∧ r ∈ p.roles ∧ d ∈ (s.split p).2
  directly : ∀ r, r ∈ s'.directlyDenied ↔
    r ∈ s.directlyDenied ∨ ∃ p, applied p ∧ r ∈ p.roles ∧ ∃ q, q ∈ (s.split p).1
  denied : ∀ r, r ∈ s'.denied ↔
    r ∈ s.denied ∨ ∃ p, applied p ∧ r ∈ p.roles ∧ (¬ ∃ q, q ∈ (s.split p).1) ∧ r ∈ s.granted

private theorem denying_denyNoted (s : RoleResolution) (p : RolePolicy) :
    Denying s (denyNoted s p) (· = p) := by
  have hdeniers (r d : String) : d ∈ ((s.denyEdges p).edges r).deniedByRoles ↔
      d ∈ (s.graph.edges r).deniedByRoles ∨ ∃ p', p' = p ∧ r ∈ p'.roles ∧ d ∈ (s.split p').2 := by
    simp only [exists_eq_left]
    exact mem_edges_denyEdges (· ∈ (s.split p).2) (fun _ => rfl) fun _ _ => NameSet.mem_addAll
  have hseen (id : String) : id ∈ s.seen.add p.id ↔ id ∈ s.seen ∨ ∃ p', p' = p ∧ p'.id = id := by
    rw [NameSet.mem_add, or_comm, exists_eq_left, eq_comm]
  by_cases h : ∃ q, q ∈ (s.split p).1
  · rw [denyNoted_of_root h]
    exact {
      rooted := rfl
      granted := rfl
      nodes := fun _ => mem_nodes_denyEdges
      principals := fun _ _ => mem_parents_denyEdges (fun _ => rfl) (fun _ => rfl)
      roles := fun _ _ => mem_parents_denyEdges (fun _ => rfl) (fun _ => rfl)
      seen := hseen
      deniers := hdeniers
      directly := fun r => by simp [h]
      denied := fun r => by simp [h] }
  · rw [denyNoted_of_rootless h]
    exact {
      rooted := rfl
      granted := rfl
      nodes := fun _ => mem_nodes_denyEdges
      principals := fun _ _ => mem_parents_denyEdges (fun _ => rfl) (fun _ => rfl)
      roles := fun _ _ => mem_parents_denyEdges (fun _ => rfl) (fun _ => rfl)
      seen := hseen
      deniers := hdeniers
      directly := fun r => by simp [h]
      denied := fun r => by simp [h] }

theorem Denying.trans {s₁ s₂ s₃ : RoleResolution} {first second : RolePolicy → Prop}
    (h : Denying s₁ s₂ first) (k : Denying s₂ s₃ second) :
    Denying s₁ s₃ fun p => first p ∨ second p := by
  have hs (p : RolePolicy) : s₂.split p = s₁.split p := split_congr h.rooted p
  exact {
    rooted := k.rooted.trans h.rooted
    granted := k.granted.trans h.granted
    nodes := fun r hr => k.nodes r (h.nodes r hr)
    principals := fun r q => (k.principals r q).trans (h.principals r q)
    roles := fun r q => (k.roles r q).trans (h.roles r q)
    seen := fun id => by
      rw [k.seen, h.seen, or_assoc]
      simp only [or_and_right, exists_or]
    deniers := fun r d => by
      rw [k.deniers, h.deniers, or_assoc]
      simp only [hs, or_and_right, exists_or]
    directly := fun r => by
      rw [k.directly, h.directly, or_assoc]
      simp only [hs, or_and_right, exists_or]
    denied := fun r => by
      rw [k.denied, h.denied, or_assoc, h.granted]
      simp only [hs, or_and_right, exists_or] }

theorem Denying.congr {applied applied' : RolePolicy → Prop} (h : Denying s s' applied)
    (hp : ∀ p, applied p ↔ applied' p) : Denying s s' applied' := by
  obtain rfl : applied = applied' := funext fun p => propext (hp p)
  exact h

/-- The policies of a list that have not been seen are applied. -/
theorem denying_applyDenies (distinct : (policies.map (·.id)).Nodup) (ps : List RolePolicy)
    (hps : ∀ p ∈ ps, p ∈ policies) (s : RoleResolution) :
    Denying s (s.applyDenies ps) fun p => p ∈ ps ∧ p.id ∉ s.seen := by
  induction ps generalizing s with
  | nil => constructor <;> simp [applyDenies]
  | cons p ps ih =>
    obtain ⟨hp, hps⟩ := List.forall_mem_cons.mp hps
    rw [applyDenies, List.foldl_cons]
    by_cases hid : s.seen.contains p.id = true
    · rw [if_pos hid]
      refine (ih hps s).congr fun p' => and_congr_left fun hu => ?_
      rw [List.mem_cons, or_iff_right]
      rintro rfl
      exact hu hid
    · rw [if_neg hid]
      have h := denying_denyNoted s p
      refine (h.trans (ih hps _)).congr fun p' => ?_
      rw [h.seen, List.mem_cons]
      simp only [exists_eq_left]
      constructor
      · rintro (rfl | ⟨hm, hu⟩)
        · exact ⟨.inl rfl, hid⟩
        · exact ⟨.inr hm, fun h => hu (.inl h)⟩
      · rintro ⟨rfl | hm, hu⟩
        · exact .inl rfl
        · by_cases he : p.id = p'.id
          · exact .inl (eq_of_id_eq distinct (hps p' hm) hp he.symm)
          · exact .inr ⟨hm, fun h => h.elim hu he⟩

/-- What each of some denies keeps, all of them keep. -/
theorem applyDenies_induct {motive : RoleResolution → Prop} (ps : List RolePolicy) (h : motive s)
    (step : ∀ s, motive s → ∀ p ∈ ps, motive ({ s with seen := s.seen.add p.id }.applyDeny p)) :
    motive (s.applyDenies ps) := by
  refine List.foldlRecOn (motive := motive) ps _ h fun s hs p hp => ?_
  split
  · exact hs
  · exact step s hs p hp

/-- Afterwards all of some denies have been seen. -/
theorem mem_seen_applyDenies (s : RoleResolution) (ps : List RolePolicy) {id : String} :
    id ∈ (s.applyDenies ps).seen ↔ id ∈ s.seen ∨ ∃ p ∈ ps, p.id = id := by
  induction ps generalizing s with
  | nil => simp [applyDenies]
  | cons p ps ih =>
    have hcons : s.applyDenies (p :: ps) = (if s.seen.contains p.id then s
        else { s with seen := s.seen.add p.id }.applyDeny p).applyDenies ps := rfl
    rw [hcons, ih, List.exists_mem_cons_iff, eq_comm (a := p.id), ← or_assoc]
    refine or_congr_left ?_
    split
    · next hid =>
      rw [or_iff_left_of_imp]
      rintro rfl
      exact hid
    · rw [applyDeny, or_comm]
      dsimp only
      split
      · exact NameSet.mem_add
      · exact NameSet.mem_add

theorem granted_applyDenies (s : RoleResolution) (ps : List RolePolicy) : (s.applyDenies ps).granted = s.granted := by
  refine applyDenies_induct (motive := fun s' => s'.granted = s.granted) ps rfl fun s' hs p _ => ?_
  rw [applyDeny]
  dsimp only
  split
  · exact hs
  · exact hs

section Collected
variable {τ : Type} {source : RoleSource (StateM τ)}

/-- The denies to the subject as such have been applied. -/
theorem gathering_start (distinct : (policies.map (·.id)).Nodup) {ps : List RolePolicy}
    (hps : ∀ p, p ∈ ps ↔ p ∈ policies ∧ p.effect = .deny ∧ p.IsDirect presented) :
    Gathering policies presented ((start presented).applyDenies ps) := by
  have h := denying_applyDenies distinct ps (fun p hp => ((hps p).mp hp).1) (start presented)
  have hroot (p : RolePolicy) (hp : p ∈ ps) : ∃ q, q ∈ ((start presented).split p).1 :=
    (split_root_iff (rootedAt_start presented)).mpr (.inl ((hps p).mp hp).2.2)
  have hnew (p : RolePolicy) : p.id ∉ (start presented).seen := Dict.not_mem_empty p.id
  have hseen (p : RolePolicy) (hp : p ∈ policies) :
      p.id ∈ ((start presented).applyDenies ps).seen ↔ p ∈ ps := by
    rw [h.seen, or_iff_right (hnew p)]
    constructor
    · rintro ⟨p', ⟨hm, -⟩, he⟩
      rwa [← eq_of_id_eq distinct ((hps p').mp hm).1 hp he]
    · intro hm
      exact ⟨p, ⟨hm, hnew p⟩, rfl⟩
  exact {
    rooted := by
      rw [RootedAt, h.rooted]
      exact rootedAt_start presented
    direct := fun r => by
      have hempty : r ∉ (start presented).directlyDenied := Dict.not_mem_empty r
      rw [h.directly, or_iff_right hempty]
      constructor
      · rintro ⟨p, ⟨hm, -⟩, hr, -⟩
        obtain ⟨hp, he, hd⟩ := (hps p).mp hm
        exact ⟨p, hp, he, hd, hr⟩
      · rintro ⟨p, hp, he, hd, hr⟩
        have hm := (hps p).mpr ⟨hp, he, hd⟩
        exact ⟨p, ⟨hm, hnew p⟩, hr, hroot p hm⟩
    undenied := fun r hr => by
      rcases (h.denied r).mp hr with hr | ⟨p, ⟨hm, -⟩, -, hn, -⟩
      · exact Dict.not_mem_empty r hr
      · exact hn (hroot p hm)
    denies := fun p hp he => by
      rw [hseen p hp, hps]
      simp only [hp, he, true_and]
    grants := fun p hp he hs => by
      have := ((hps p).mp ((hseen p hp).mp hs)).2.1
      rw [he] at this
      cases this
    sound := fun r hr => by
      rw [h.granted] at hr
      exact absurd hr (Dict.not_mem_empty r)
    nodes := fun r hr => by
      rw [h.granted] at hr
      exact absurd hr (Dict.not_mem_empty r)
    parents := fun r x hx => absurd ((h.roles r x).mp hx) (Dict.not_mem_empty x)
    deniers := fun r d hd => by
      rcases (h.deniers r d).mp hd with hd | ⟨p, ⟨hm, -⟩, hr, hd⟩
      · exact absurd hd (Dict.not_mem_empty d)
      · obtain ⟨hp, he, -⟩ := (hps p).mp hm
        exact ⟨p, hp, he, ((mem_split_roles (rootedAt_start presented)).mp hd).1, hr⟩ }

/-- What is settled in the end: a graph of the granted roles that shows each grant between them and,
until a role is lost, each denial. -/
structure Settling (policies : List RolePolicy) (presented : List String) (s : RoleResolution) :
    Prop where
  sound : ∀ r ∈ s.granted, Granted policies presented r
  nodes : ∀ r, r ∈ s.graph.nodes ↔ r ∈ s.granted
  grants : ∀ p ∈ policies, p.effect = .grant → ∀ r ∈ p.roles, r ∈ s.granted →
    Recorded s.graph (· ∈ s.granted) presented p r
  denies : ∀ r ∈ s.granted, ∀ d ∈ s.granted, Denies policies d r →
    d ∈ (s.graph.edges r).deniedByRoles
  parents : ∀ r, ∀ x ∈ (s.graph.edges r).parentRoles,
    Granted policies presented x ∧ Grants policies x r
  deniers : ∀ r, ∀ d ∈ (s.graph.edges r).deniedByRoles,
    Granted policies presented d ∧ Denies policies d r

/-- The roles that a resolution has collected before any denial by a role takes effect. -/
structure Collected (policies : List RolePolicy) (presented : List String) (s : RoleResolution) :
    Prop where
  granted : ∀ r, r ∈ s.granted ↔ Granted policies presented r
  denied : ∀ r, r ∈ s.denied ↔ r ∈ s.granted ∧ ∃ p ∈ policies, p.effect = .deny ∧
    ¬ p.IsStray presented ∧ (∃ d ∈ s.granted, p.Names d) ∧ r ∈ p.roles
  settling : Settling policies presented s

/-- A denial by granted roles of a granted role is not one to the subject as such. -/
private theorem not_isDirect_of_granted {p : RolePolicy} {r : String} (hp : p ∈ policies)
    (he : p.effect = .deny) (hr : r ∈ p.roles) (hg : Granted policies presented r) :
    ¬ p.IsDirect presented := fun hd => hg.not_directlyDenied ⟨p, hp, he, hd, hr⟩

/-- The denies that the granted roles bring along. -/
def Pending (policies : List RolePolicy) (presented : List String) (s : RoleResolution)
    (p : RolePolicy) : Prop :=
  p ∈ policies ∧ p.effect = .deny ∧ ¬ p.IsDirect presented ∧ ∃ d ∈ s.granted, p.Names d

private theorem pending_of_denies (h : Gathering policies presented s) {r d : String}
    (hr : r ∈ s.granted) (hd : d ∈ s.granted) (hn : Denies policies d r) :
    ∃ p, Pending policies presented s p ∧ r ∈ p.roles ∧ d ∈ (s.split p).2 := by
  obtain ⟨p, hp, he, hn, hr'⟩ := hn
  have hnot := not_isDirect_of_granted hp he hr' (h.sound r hr)
  refine ⟨p, ⟨hp, he, hnot, d, hd, hn⟩, hr', (mem_split_roles h.rooted).mpr ⟨hn, fun hm => ?_⟩⟩
  exact hnot (.inr ⟨_, hn, hm⟩)

private theorem settling_restrict (h : Gathering policies presented s)
    (hf : Frontier policies presented s []) (hd : Denying s s' (Pending policies presented s)) :
    Settling policies presented { s' with graph := s'.graph.restrict s'.granted } := by
  have hkeep (r : String) : s'.granted.contains r = true ↔ r ∈ s.granted := by
    rw [Dict.contains_iff, hd.granted]
  constructor
  · intro r hr
    exact h.sound r ((hkeep r).mp hr)
  · intro r
    refine RoleGraph.mem_nodes_restrictTo.trans (and_iff_right_of_imp fun hr => ?_)
    exact hd.nodes r (h.nodes r ((hkeep r).mp hr))
  · intro p hp he r hr hg
    have hg' := (hkeep r).mp hg
    have hn := (h.sound r hg').not_directlyDenied
    by_cases hs : p.id ∈ s.seen
    · refine (h.grants p hp he hs r hr hn).2.mono (fun _ _ => trivial) (fun q hq => ?_) fun x hx hg' => ?_
      · exact RoleGraph.mem_parentPrincipals_restrictTo.mpr ⟨hg, (hd.principals r q).mpr hq⟩
      · exact RoleGraph.mem_parentRoles_restrictTo.mpr ⟨hg, (hd.roles r x).mpr hx, hg'⟩
    · obtain ⟨hdirect, hx⟩ := hf p hp he hs
      refine ⟨fun hdirect' => absurd hdirect' hdirect, fun x hg' hn => ?_⟩
      exact absurd (hx x ((hkeep x).mp hg') hn) (List.not_mem_nil)
  · intro r hr d hg hn
    refine RoleGraph.mem_deniedByRoles_restrictTo.mpr ⟨hr, (hd.deniers r d).mpr (.inr ?_), hg⟩
    exact pending_of_denies h ((hkeep r).mp hr) ((hkeep d).mp hg) hn
  · intro r x hx
    obtain ⟨-, hx, hg⟩ := RoleGraph.mem_parentRoles_restrictTo.mp hx
    exact ⟨h.sound x ((hkeep x).mp hg), h.parents r x ((hd.roles r x).mp hx)⟩
  · intro r d hm
    obtain ⟨-, hm, hg⟩ := RoleGraph.mem_deniedByRoles_restrictTo.mp hm
    refine ⟨h.sound d ((hkeep d).mp hg), ?_⟩
    rcases (hd.deniers r d).mp hm with hm | ⟨p, ⟨hp, he, -⟩, hr, hm⟩
    · exact h.deniers r d hm
    · exact ⟨p, hp, he, ((mem_split_roles h.rooted).mp hm).1, hr⟩

/-- The denies by granted roles complete what grants have gathered. -/
private theorem collected_of_denying (h : Gathering policies presented s)
    (hf : Frontier policies presented s []) (hd : Denying s s' (Pending policies presented s)) :
    Collected policies presented { s' with graph := s'.graph.restrict s'.granted } where
  granted r := by
    rw [hd.granted]
    exact ⟨h.sound r, hf.complete h⟩
  denied r := by
    rw [hd.denied, or_iff_right (h.undenied r), hd.granted]
    constructor
    · rintro ⟨p, ⟨hp, he, -, hn⟩, hr, hroot, hg⟩
      refine ⟨hg, p, hp, he, fun hs => hroot ?_, hn, hr⟩
      exact (split_root_iff h.rooted).mpr (.inr hs)
    · rintro ⟨hg, p, hp, he, hs, hn, hr⟩
      have hnot := not_isDirect_of_granted hp he hr (h.sound r hg)
      refine ⟨p, ⟨hp, he, hnot, hn⟩, hr, fun hroot => ?_, hg⟩
      exact ((split_root_iff h.rooted).mp hroot).elim hnot hs
  settling := settling_restrict h hf hd

/-- The grants to the subject as such leave only grants to new roles. -/
private theorem spreading_start (distinct : (policies.map (·.id)).Nodup) {denies grants : List RolePolicy}
    (hd : ∀ p, p ∈ denies ↔ p ∈ policies ∧ p.effect = .deny ∧ p.IsDirect presented)
    (hg : ∀ p, p ∈ grants ↔ p ∈ policies ∧ p.effect = .grant ∧ p.IsDirect presented) :
    let spread := ((start presented).applyDenies denies).applyGrants grants
    Gathering policies presented spread.1 ∧ Frontier policies presented spread.1 spread.2 ∧
      ∀ r ∈ spread.2, r ∈ spread.1.granted := by
  have hnone := (denying_applyDenies distinct denies (fun p hp => ((hd p).mp hp).1)
    (start presented)).granted
  obtain ⟨h, ha, hs⟩ := applyGrants_spec distinct grants (gathering_start distinct hd) fun p hp => by
    obtain ⟨hp, he, hd⟩ := (hg p).mp hp
    exact ⟨hp, he, .inl hd⟩
  refine ⟨h, fun p hp he hu => ?_, fun r hr => (ha.granted r).mpr (.inr hr)⟩
  refine ⟨fun hdirect => hu (hs p ((hg p).mpr ⟨hp, he, hdirect⟩)), fun x hx _ => ?_⟩
  rcases (ha.granted x).mp hx with hx | hx
  · rw [hnone] at hx
    exact absurd hx (Dict.not_mem_empty x)
  · exact hx

theorem pending_iff_served (serves : source.ServesFrom policies presented)
    (h : Gathering policies presented s) (t : τ) (p : RolePolicy) :
    p ∈ (source.query (s.granted.toList.map Role.principal) s.seen t).1.denied ∧ p.id ∉ s.seen ↔
      Pending policies presented s p := by
  have hdirect (hp : p ∈ policies) (he : p.effect = .deny) (hu : p.id ∉ s.seen) : ¬ p.IsDirect presented :=
    fun hd => hu ((h.denies p hp he).mpr hd)
  by_cases hnone : s.granted.toList = []
  · rw [hnone, List.map_nil]
    constructor
    · rintro ⟨hp, -⟩
      obtain ⟨hp, he, hu, hn⟩ := serves.unasked _ _ _ hp
      exact absurd (.inl hn) (hdirect hp he hu)
    · rintro ⟨-, -, -, x, hx, -⟩
      rw [← NameSet.mem_toList, hnone] at hx
      cases hx
  · rw [serves.denied _ (.inr fun hnil => hnone (List.map_eq_nil_iff.mp hnil)), RolePolicy.isDirect_roles_iff]
    simp only [NameSet.mem_toList]
    constructor
    · rintro ⟨⟨hp, he, hu, hn⟩, -⟩
      exact ⟨hp, he, hdirect hp he hu, hn.resolve_left fun hn => hdirect hp he hu (.inl hn)⟩
    · rintro ⟨hp, he, hnot, hn⟩
      have hu : p.id ∉ s.seen := fun hs => hnot ((h.denies p hp he).mp hs)
      exact ⟨⟨hp, he, hu, .inr hn⟩, hu⟩

theorem mem_of_served (serves : source.ServesFrom policies presented) (principals : List String)
    (seen : NameSet) (t : τ) {p : RolePolicy} (hp : p ∈ (source.query principals seen t).1.denied) :
    p ∈ policies ∧ p.effect = .deny := by
  by_cases hne : principals = []
  · rw [hne] at hp
    obtain ⟨hp, he, -⟩ := serves.unasked _ _ _ hp
    exact ⟨hp, he⟩
  · obtain ⟨hp, he, -⟩ := (serves.denied _ (.inr hne) _ _ _).mp hp
    exact ⟨hp, he⟩

theorem denying_served (distinct : (policies.map (·.id)).Nodup)
    (serves : source.ServesFrom policies presented) (h : Gathering policies presented s) (t : τ) :
    Denying s (s.applyDenies
      (source.query (s.granted.toList.map Role.principal) s.seen t).1.denied)
      (Pending policies presented s) :=
  (denying_applyDenies distinct _ (fun _ hp => (mem_of_served serves _ _ _ hp).1) s).congr
    (pending_iff_served serves h t)

/-- What grants have spread to, before the denies by granted roles are collected. -/
def spread (source : RoleSource (StateM τ)) (presented : List String) : StateM τ RoleResolution := do
  let direct ← source.query presented (start presented).seen
  let (s, fresh) := ((start presented).applyDenies direct.denied).applyGrants direct.granted
  s.expand source (source.size + 1) fresh

/-- Grants spread to all roles that they can reach. -/
theorem gathering_spread (distinct : (policies.map (·.id)).Nodup)
    (serves : source.ServesFrom policies presented) (t : τ) :
    Gathering policies presented (spread source presented t).1 ∧
      Frontier policies presented (spread source presented t).1 [] := by
  let direct := source.query presented (start presented).seen t
  have hnew (p : RolePolicy) : p.id ∉ (start presented).seen := Dict.not_mem_empty p.id
  have hd (p : RolePolicy) : p ∈ direct.1.denied ↔
      p ∈ policies ∧ p.effect = .deny ∧ p.IsDirect presented := by
    rw [serves.denied _ (.inl rfl), eq_true (hnew p), true_and]
  have hg (p : RolePolicy) : p ∈ direct.1.granted ↔
      p ∈ policies ∧ p.effect = .grant ∧ p.IsDirect presented := by
    rw [serves.granted _ (.inl rfl), eq_true (hnew p), true_and]
  obtain ⟨h₁, hf₁, hm₁⟩ := spreading_start distinct hd hg
  have hfuel (s : RoleResolution) : unseen policies s < source.size + 1 :=
    Nat.lt_succ_of_le ((List.length_filter_le ..).trans serves.size)
  exact expand_spec distinct serves (source.size + 1) h₁ hf₁ hm₁ (.inr (hfuel _)) direct.2

/-- What is left to do when grants have spread. -/
theorem gather_eq (source : RoleSource (StateM τ)) (presented : List String) (t : τ) :
    ∃ u, (source.gather presented t).1 =
      let s := (spread source presented t).1
      let s' := s.applyDenies (source.query (s.granted.toList.map Role.principal) s.seen u).1.denied
      { s' with graph := s'.graph.restrict s'.granted } := ⟨_, rfl⟩

/-- A resolution collects the granted roles and the denials among them, whatever the order in which
the source serves the policies. -/
theorem collected_gather_from (distinct : (policies.map (·.id)).Nodup)
    (serves : source.ServesFrom policies presented) (t : τ) :
    Collected policies presented (source.gather presented t).1 := by
  obtain ⟨h, hf⟩ := gathering_spread distinct serves t
  obtain ⟨u, hgather⟩ := gather_eq source presented t
  rw [hgather]
  exact collected_of_denying h hf (denying_served distinct serves h u)

theorem collected_gather (distinct : (policies.map (·.id)).Nodup) (serves : source.Serves policies)
    (presented : List String) (t : τ) : Collected policies presented (source.gather presented t).1 :=
  collected_gather_from distinct (serves.servesFrom presented) t

end Collected

end Turnstile.RoleResolution

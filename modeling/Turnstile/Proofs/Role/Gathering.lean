import Turnstile.Proofs.Role.Chain
import Turnstile.Proofs.Role.Graph

/-! The state in which a resolution has collected its grants and denies. Grants have spread to exactly
the roles that policies grant, and every grant and deny between granted roles is an edge of the graph. -/
namespace Turnstile.RoleResolution
variable {policies : List RolePolicy} {presented : List String} {s s' : RoleResolution}

/-- The presented principals, and the root of policies that name no principal. -/
def RootedAt (presented : List String) (s : RoleResolution) : Prop :=
  ∀ q, q ∈ s.rooted ↔ q = anyPrincipal ∨ q ∈ presented

theorem rootedAt_start (presented : List String) : RootedAt presented (start presented) := by
  intro q
  simp [start]

theorem split_congr (h : s'.rooted = s.rooted) (p : RolePolicy) : s'.split p = s.split p := by
  simp only [split, h]

/-- A policy without presented principals has a root only by spelling it out. -/
theorem split_root_iff (h : RootedAt presented s) {p : RolePolicy} :
    (∃ q, q ∈ (s.split p).1) ↔ p.IsDirect presented ∨ p.IsStray presented := by
  have hroot (q : String) : s.rooted.contains q = true ↔ q = anyPrincipal ∨ q ∈ presented := h q
  by_cases hp : p.principals = []
  · simp [split, hp, RolePolicy.IsDirect]
  · simp only [split, List.isEmpty_iff, hp, if_false, List.mem_filter, hroot, RolePolicy.IsDirect,
      RolePolicy.IsStray, false_or]
    constructor
    · rintro ⟨q, hq, rfl | hm⟩
      · by_cases hm : anyPrincipal ∈ presented
        · exact .inl ⟨_, hq, hm⟩
        · exact .inr ⟨hq, hm⟩
      · exact .inl ⟨q, hq, hm⟩
    · rintro (⟨q, hq, hm⟩ | ⟨hq, -⟩)
      · exact ⟨q, hq, .inr hm⟩
      · exact ⟨_, hq, .inl rfl⟩

theorem mem_split_roles (h : RootedAt presented s) {p : RolePolicy} {r : String} :
    r ∈ (s.split p).2 ↔ p.Names r ∧ Role.principal r ∉ presented := by
  have hroot : s.rooted.contains (Role.principal r) = false ↔ Role.principal r ∉ presented := by
    rw [Dict.contains_eq_false_iff, h]
    simp [Role.principal_ne_anyPrincipal]
  by_cases hp : p.principals = []
  · simp [split, hp, RolePolicy.Names]
  · simp only [split, List.isEmpty_iff, hp, if_false, List.mem_filterMap, List.mem_filter,
      Role.ofPrincipal?_eq_some_iff, Bool.not_eq_true', RolePolicy.Names]
    constructor
    · rintro ⟨_, ⟨hq, hm⟩, rfl⟩
      exact ⟨hq, hroot.mp hm⟩
    · rintro ⟨hq, hm⟩
      exact ⟨_, ⟨hq, hroot.mpr hm⟩, rfl⟩

section Grant

/-- The roles of a policy that are not directly denied. -/
def openRoles (s : RoleResolution) (p : RolePolicy) : List String :=
  p.roles.filter fun r => !s.directlyDenied.contains r

@[simp] theorem mem_openRoles {p : RolePolicy} {r : String} :
    r ∈ s.openRoles p ↔ r ∈ p.roles ∧ r ∉ s.directlyDenied := by
  simp [openRoles]

/-- Keeps a list of the names that are new to a set. -/
private def grantAll (acc : NameSet × List String) (roles : List String) : NameSet × List String :=
  roles.foldl (fun (granted, fresh) r =>
    if granted.contains r then (granted, fresh) else (granted.add r, fresh ++ [r])) acc

private theorem grantAll_cons {granted : NameSet} {fresh roles : List String} {a : String} :
    grantAll (granted, fresh) (a :: roles) =
      if a ∈ granted then grantAll (granted, fresh) roles
      else grantAll (granted.add a, fresh ++ [a]) roles := by
  by_cases ha : a ∈ granted <;> simp [grantAll, ha]

private theorem mem_grantAll (granted : NameSet) (fresh roles : List String) {r : String} :
    (r ∈ (grantAll (granted, fresh) roles).1 ↔ r ∈ granted ∨ r ∈ roles) ∧
      (r ∈ (grantAll (granted, fresh) roles).2 ↔ r ∈ fresh ∨ r ∈ roles ∧ r ∉ granted) := by
  induction roles generalizing granted fresh with
  | nil => simp [grantAll]
  | cons a roles ih =>
    rw [grantAll_cons, List.mem_cons]
    by_cases ha : a ∈ granted
    · obtain ⟨h₁, h₂⟩ := ih granted fresh
      rw [if_pos ha, h₁, h₂]
      by_cases hr : r = a
      · subst hr; simp [ha]
      · simp [hr]
    · obtain ⟨h₁, h₂⟩ := ih (granted.add a) (fresh ++ [a])
      rw [if_neg ha, h₁, h₂]
      simp only [NameSet.mem_add, List.mem_append, List.mem_cons, List.not_mem_nil, or_false]
      by_cases hr : r = a
      · subst hr; simp [ha]
      · simp [hr]

private theorem nodup_grantAll {granted : NameSet} {fresh : List String} (hgranted : ∀ r ∈ fresh, r ∈ granted)
    (h : fresh.Nodup) (roles : List String) : (grantAll (granted, fresh) roles).2.Nodup := by
  induction roles generalizing granted fresh with
  | nil => exact h
  | cons a roles ih =>
    rw [grantAll_cons]
    split
    · exact ih hgranted h
    · next ha =>
      apply ih
      · intro r hr
        rw [NameSet.mem_add, or_comm]
        exact (List.mem_append.mp hr).imp (hgranted r) List.mem_singleton.mp
      · exact List.nodup_append.mpr ⟨h, List.nodup_singleton a, fun r hr _ ha' hra =>
          ha (List.mem_singleton.mp ha' ▸ hra ▸ hgranted r hr)⟩

variable {p : RolePolicy} {r q : String}

theorem mem_granted_applyGrant :
    r ∈ (s.applyGrant p).1.granted ↔ r ∈ s.granted ∨ r ∈ s.openRoles p := (mem_grantAll ..).1

theorem mem_fresh_applyGrant : r ∈ (s.applyGrant p).2 ↔ r ∈ s.openRoles p ∧ r ∉ s.granted :=
  (mem_grantAll ..).2.trans (by simp)

theorem nodup_fresh_applyGrant : (s.applyGrant p).2.Nodup :=
  nodup_grantAll (fun _ hr => absurd hr List.not_mem_nil) .nil _

theorem mem_nodes_applyGrant (h : r ∈ s.openRoles p ∨ r ∈ s.graph.nodes) :
    r ∈ (s.applyGrant p).1.graph.nodes :=
  RoleGraph.mem_nodes_foldl_update.mpr (.inr (RoleGraph.mem_nodes_foldl_update.mpr h))

/-- A grant adds edges at its roles, and at the roles that it names. -/
theorem mem_edges_applyGrant {kind : RoleNode → NameSet} (up down : String → Prop)
    (hp : ∀ n q, q ∈ kind (addParents (s.split p).1 (s.split p).2 n) ↔ q ∈ kind n ∨ up q)
    (hc : ∀ n q, q ∈ kind (addChildren (s.openRoles p) n) ↔ q ∈ kind n ∨ down q) :
    q ∈ kind ((s.applyGrant p).1.graph.edges r) ↔
      q ∈ kind (s.graph.edges r) ∨ r ∈ s.openRoles p ∧ up q ∨ r ∈ (s.split p).2 ∧ down q := by
  refine (RoleGraph.mem_edges_foldl_update hc).trans ?_
  rw [← or_assoc]
  exact or_congr_left (RoleGraph.mem_edges_foldl_update hp)

private theorem mem_parents_applyGrant {kind : RoleNode → NameSet} (up : String → Prop)
    (hp : ∀ n q, q ∈ kind (addParents (s.split p).1 (s.split p).2 n) ↔ q ∈ kind n ∨ up q)
    (hc : ∀ n, kind (addChildren (s.openRoles p) n) = kind n) :
    q ∈ kind ((s.applyGrant p).1.graph.edges r) ↔
      q ∈ kind (s.graph.edges r) ∨ r ∈ s.openRoles p ∧ up q := by
  refine (mem_edges_applyGrant up (fun _ => False) hp fun n q => ?_).trans ?_
  · rw [hc, or_false]
  · rw [and_false, or_false]

theorem mem_parentPrincipals_applyGrant :
    q ∈ ((s.applyGrant p).1.graph.edges r).parentPrincipals ↔
      q ∈ (s.graph.edges r).parentPrincipals ∨ r ∈ s.openRoles p ∧ q ∈ (s.split p).1 :=
  mem_parents_applyGrant _ (by simp [addParents]) fun _ => rfl

theorem mem_parentRoles_applyGrant : q ∈ ((s.applyGrant p).1.graph.edges r).parentRoles ↔
    q ∈ (s.graph.edges r).parentRoles ∨ r ∈ s.openRoles p ∧ q ∈ (s.split p).2 :=
  mem_parents_applyGrant _ (by simp [addParents]) fun _ => rfl

theorem mem_childRoles_applyGrant : q ∈ ((s.applyGrant p).1.graph.edges r).childRoles ↔
    q ∈ (s.graph.edges r).childRoles ∨ r ∈ (s.split p).2 ∧ q ∈ s.openRoles p := by
  refine (mem_edges_applyGrant (fun _ => False) (· ∈ s.openRoles p) (by simp [addParents])
    (by simp [addChildren])).trans ?_
  rw [and_false, false_or]

theorem mem_deniedByRoles_applyGrant : q ∈ ((s.applyGrant p).1.graph.edges r).deniedByRoles ↔
    q ∈ (s.graph.edges r).deniedByRoles :=
  (mem_parents_applyGrant (fun _ => False) (by simp [addParents]) fun _ => rfl).trans (by simp)

end Grant

/-- The graph shows why a policy grants a role, as far as some other roles are concerned. -/
structure Recorded (g : RoleGraph) (among : String → Prop) (presented : List String)
    (p : RolePolicy) (r : String) : Prop where
  root : p.IsDirect presented → ∃ q, q ∈ (g.edges r).parentPrincipals
  parent : ∀ x, among x → p.Names x →
    x ∈ (g.edges r).parentRoles ∨ ∃ q, q ∈ (g.edges r).parentPrincipals

/-- While grants spread, every grant that has been seen is in the graph. Of the denies, the direct
ones have been seen. -/
structure Gathering (policies : List RolePolicy) (presented : List String) (s : RoleResolution) :
    Prop where
  rooted : RootedAt presented s
  direct : ∀ r, r ∈ s.directlyDenied ↔ DirectlyDenied policies presented r
  undenied : ∀ r, r ∉ s.denied
  denies : ∀ p ∈ policies, p.effect = .deny → (p.id ∈ s.seen ↔ p.IsDirect presented)
  grants : ∀ p ∈ policies, p.effect = .grant → p.id ∈ s.seen → ∀ r ∈ p.roles,
    ¬ DirectlyDenied policies presented r → r ∈ s.granted ∧ Recorded s.graph (fun _ => True) presented p r
  sound : ∀ r ∈ s.granted, Granted policies presented r
  nodes : ∀ r ∈ s.granted, r ∈ s.graph.nodes
  parents : ∀ r, ∀ x ∈ (s.graph.edges r).parentRoles, Grants policies x r
  deniers : ∀ r, ∀ d ∈ (s.graph.edges r).deniedByRoles, Denies policies d r

/-- What a number of grants changes, apart from the graph. -/
structure Advances (policies : List RolePolicy) (s s' : RoleResolution) (fresh : List String) :
    Prop where
  granted : ∀ r, r ∈ s'.granted ↔ r ∈ s.granted ∨ r ∈ fresh
  seen : ∀ id ∈ s.seen, id ∈ s'.seen
  news : fresh ≠ [] → ∃ p ∈ policies, p.id ∉ s.seen ∧ p.id ∈ s'.seen

/-- A granting policy whose roles the subject may hold by now. -/
def Applicable (policies : List RolePolicy) (presented : List String) (s : RoleResolution)
    (p : RolePolicy) : Prop :=
  p ∈ policies ∧ p.effect = .grant ∧ (p.IsDirect presented ∨ ∃ x ∈ s.granted, p.Names x)

theorem Applicable.mono {p : RolePolicy} {fresh : List String}
    (h : Applicable policies presented s p) (ha : Advances policies s s' fresh) :
    Applicable policies presented s' p :=
  ⟨h.1, h.2.1, h.2.2.imp_right fun ⟨x, hx, hm⟩ => ⟨x, (ha.granted x).mpr (.inl hx), hm⟩⟩

theorem Advances.refl : Advances policies s s [] where
  granted := by simp
  seen _ h := h
  news h := absurd rfl h

theorem Advances.trans {s₁ s₂ s₃ : RoleResolution} {more rest : List String}
    (h : Advances policies s₁ s₂ more) (k : Advances policies s₂ s₃ rest) :
    Advances policies s₁ s₃ (more ++ rest) where
  granted r := by
    rw [k.granted, h.granted, List.mem_append, or_assoc]
  seen id hid := k.seen id (h.seen id hid)
  news hne := by
    by_cases hm : more = []
    · obtain ⟨p, hp, hu, hs⟩ := k.news (by simpa [hm] using hne)
      exact ⟨p, hp, fun hid => hu (h.seen _ hid), hs⟩
    · obtain ⟨p, hp, hu, hs⟩ := h.news hm
      exact ⟨p, hp, hu, k.seen _ hs⟩

theorem Recorded.mono {g g' : RoleGraph} {among fewer : String → Prop} {p : RolePolicy} {r : String}
    (h : Recorded g among presented p r) (hf : ∀ x, fewer x → among x)
    (hp : ∀ q ∈ (g.edges r).parentPrincipals, q ∈ (g'.edges r).parentPrincipals)
    (hr : ∀ x ∈ (g.edges r).parentRoles, fewer x → x ∈ (g'.edges r).parentRoles) :
    Recorded g' fewer presented p r where
  root hd := (h.root hd).imp hp
  parent x hx hn := (h.parent x (hf x hx) hn).imp (fun hm => hr x hm hx) (Exists.imp hp)

/-- Takes note of a policy before it is applied. -/
private abbrev noted (s : RoleResolution) (p : RolePolicy) : RoleResolution :=
  { s with seen := s.seen.add p.id }

/-- The graph shows a grant of a policy that has just been applied. -/
private theorem recorded_applyGrant (h : RootedAt presented s) {p : RolePolicy} {r : String}
    (ho : r ∈ (noted s p).openRoles p) :
    Recorded ((noted s p).applyGrant p).1.graph (fun _ => True) presented p r where
  root hd := by
    obtain ⟨q, hq⟩ := (split_root_iff (s := noted s p) h).mpr (.inl hd)
    exact ⟨q, mem_parentPrincipals_applyGrant.mpr (.inr ⟨ho, hq⟩)⟩
  parent x _ hx := by
    by_cases hx' : Role.principal x ∈ presented
    · obtain ⟨q, hq⟩ := (split_root_iff (s := noted s p) h).mpr (.inl (.inr ⟨_, hx, hx'⟩))
      exact .inr ⟨q, mem_parentPrincipals_applyGrant.mpr (.inr ⟨ho, hq⟩)⟩
    · have hm := (mem_split_roles (s := noted s p) h).mpr ⟨hx, hx'⟩
      exact .inl (mem_parentRoles_applyGrant.mpr (.inr ⟨ho, hm⟩))

section Step
variable (distinct : (policies.map (·.id)).Nodup)
include distinct

theorem eq_of_id_eq {p p' : RolePolicy} (hp : p ∈ policies) (hp' : p' ∈ policies)
    (h : p.id = p'.id) : p = p' :=
  List.inj_on_of_nodup_map distinct hp hp' h

theorem Gathering.applyGrant {p : RolePolicy} (h : Gathering policies presented s)
    (hp : Applicable policies presented s p) :
    Gathering policies presented ((noted s p).applyGrant p).1 where
  rooted := h.rooted
  direct := h.direct
  undenied := h.undenied
  denies p' hp' he := by
    have hne : p'.id ≠ p.id := fun hid => by
      rw [eq_of_id_eq distinct hp' hp.1 hid, hp.2.1] at he
      cases he
    exact Iff.trans (by simp [hne, RoleResolution.applyGrant]) (h.denies p' hp' he)
  grants p' hp' he hs r hr hn := by
    have hopen : r ∉ s.directlyDenied := fun hd => hn ((h.direct r).mp hd)
    rw [mem_granted_applyGrant]
    rcases NameSet.mem_add.mp hs with hid | hs
    · obtain rfl := eq_of_id_eq distinct hp' hp.1 hid
      have ho : r ∈ (noted s p').openRoles p' := mem_openRoles.mpr ⟨hr, hopen⟩
      exact ⟨.inr ho, recorded_applyGrant h.rooted ho⟩
    · obtain ⟨hg, hrec⟩ := h.grants p' hp' he hs r hr hn
      exact ⟨.inl hg, hrec.mono (fun _ hx => hx)
        (fun q hq => mem_parentPrincipals_applyGrant.mpr (.inl hq))
        fun x hx _ => mem_parentRoles_applyGrant.mpr (.inl hx)⟩
  sound r hr := by
    rcases mem_granted_applyGrant.mp hr with hr | hr
    · exact h.sound r hr
    · obtain ⟨hr, hopen⟩ := mem_openRoles.mp hr
      have hn : ¬ DirectlyDenied policies presented r := fun hd => hopen ((h.direct r).mpr hd)
      rcases hp.2.2 with hd | ⟨x, hx, hm⟩
      · exact .direct hp.1 hp.2.1 hd hr hn
      · exact .through hp.1 hp.2.1 hm (h.sound x hx) hr hn
  nodes r hr := by
    apply mem_nodes_applyGrant
    exact (mem_granted_applyGrant.mp hr).symm.imp_right (h.nodes r)
  parents r x hx := by
    rcases mem_parentRoles_applyGrant.mp hx with hx | ⟨hr, hx⟩
    · exact h.parents r x hx
    · have hn := (mem_split_roles (s := noted s p) h.rooted).mp hx
      exact ⟨p, hp.1, hp.2.1, hn.1, (mem_openRoles.mp hr).1⟩
  deniers r d hd := h.deniers r d (mem_deniedByRoles_applyGrant.mp hd)

omit distinct in
private theorem advances_applyGrant {p : RolePolicy} (hp : p ∈ policies) (hu : p.id ∉ s.seen) :
    Advances policies s ((noted s p).applyGrant p).1 ((noted s p).applyGrant p).2 where
  granted r := by
    rw [mem_granted_applyGrant, mem_fresh_applyGrant]
    tauto
  seen id hid := NameSet.mem_add.mpr (.inr hid)
  news _ := ⟨p, hp, hu, NameSet.mem_add.mpr (.inl rfl)⟩

omit distinct

private def grantStep (acc : RoleResolution × List String) (p : RolePolicy) :
    RoleResolution × List String :=
  if p.id ∈ acc.1.seen then acc
  else (((noted acc.1 p).applyGrant p).1, acc.2 ++ ((noted acc.1 p).applyGrant p).2)

/-- The roles found so far do not matter to the policies that are left. -/
private theorem foldl_grantStep (ps : List RolePolicy) (s : RoleResolution) (fresh : List String) :
    ps.foldl grantStep (s, fresh) =
      ((ps.foldl grantStep (s, [])).1, fresh ++ (ps.foldl grantStep (s, [])).2) := by
  induction ps generalizing s fresh with
  | nil => simp
  | cons p ps ih =>
    rw [List.foldl_cons, List.foldl_cons]
    by_cases h : p.id ∈ s.seen
    · simp only [grantStep, h, if_true]
      exact ih s fresh
    · simp only [grantStep, h, if_false, List.nil_append]
      rw [ih _ (fresh ++ _), ih _ ((noted s p).applyGrant p).2, List.append_assoc]

private theorem applyGrants_eq (s : RoleResolution) (ps : List RolePolicy) :
    s.applyGrants ps = ps.foldl grantStep (s, []) := by
  congr

private theorem applyGrants_cons (s : RoleResolution) (p : RolePolicy) (ps : List RolePolicy) :
    s.applyGrants (p :: ps) =
      if p.id ∈ s.seen then s.applyGrants ps
      else
        ((((noted s p).applyGrant p).1.applyGrants ps).1,
          ((noted s p).applyGrant p).2 ++ (((noted s p).applyGrant p).1.applyGrants ps).2) := by
  rw [applyGrants_eq, List.foldl_cons, applyGrants_eq, applyGrants_eq]
  by_cases h : p.id ∈ s.seen
  · simp only [grantStep, h, if_true]
  · simp only [grantStep, h, if_false, List.nil_append]
    exact foldl_grantStep ..

/-- What each of some grants keeps, all of them keep. -/
theorem applyGrants_induct {motive : RoleResolution → Prop} (ps : List RolePolicy) (h : motive s)
    (step : ∀ s, motive s → ∀ p ∈ ps, motive ({ s with seen := s.seen.add p.id }.applyGrant p).1) :
    motive (s.applyGrants ps).1 := by
  induction ps generalizing s with
  | nil => exact h
  | cons p ps ih =>
    have hrest := fun s hs p hp => step s hs p (List.mem_cons_of_mem _ hp)
    rw [applyGrants_cons]
    split
    · exact ih h hrest
    · exact ih (step s h p List.mem_cons_self) hrest

/-- Afterwards all of some grants have been seen. -/
theorem mem_seen_applyGrants (s : RoleResolution) (ps : List RolePolicy) {id : String} :
    id ∈ (s.applyGrants ps).1.seen ↔ id ∈ s.seen ∨ ∃ p ∈ ps, p.id = id := by
  induction ps generalizing s with
  | nil => simp [applyGrants]
  | cons p ps ih =>
    have hstep : id ∈ ((noted s p).applyGrant p).1.seen ↔ id = p.id ∨ id ∈ s.seen := NameSet.mem_add
    rw [applyGrants_cons, List.exists_mem_cons_iff, eq_comm (a := p.id)]
    split
    · next hid =>
      rw [ih]
      constructor
      · exact fun h => h.imp_right .inr
      · rintro (h | rfl | h)
        · exact .inl h
        · exact .inl hid
        · exact .inr h
    · rw [ih, hstep]
      tauto

/-- Granted roles stay granted, and new ones are. -/
theorem grown_applyGrants (s : RoleResolution) (ps : List RolePolicy) :
    (∀ r ∈ s.granted, r ∈ (s.applyGrants ps).1.granted) ∧
      ∀ r ∈ (s.applyGrants ps).2, r ∈ (s.applyGrants ps).1.granted := by
  induction ps generalizing s with
  | nil => exact ⟨fun _ hr => hr, fun _ hr => nomatch hr⟩
  | cons p ps ih =>
    rw [applyGrants_cons]
    split
    · exact ih s
    · obtain ⟨hold, hnew⟩ := ih ((noted s p).applyGrant p).1
      refine ⟨fun r hr => hold r (mem_granted_applyGrant.mpr (.inl hr)), fun r hr => ?_⟩
      rcases List.mem_append.mp hr with hr | hr
      · exact hold r (mem_granted_applyGrant.mpr (.inr (mem_fresh_applyGrant.mp hr).1))
      · exact hnew r hr

/-- A role is new only once. -/
theorem nodup_applyGrants (s : RoleResolution) (ps : List RolePolicy) :
    (s.applyGrants ps).2.Nodup ∧ ∀ r ∈ (s.applyGrants ps).2, r ∉ s.granted := by
  induction ps generalizing s with
  | nil => exact ⟨.nil, fun _ hr => nomatch hr⟩
  | cons p ps ih =>
    rw [applyGrants_cons]
    split
    · exact ih s
    · obtain ⟨hnodup, hnew⟩ := ih ((noted s p).applyGrant p).1
      have hold (r : String) (hr : r ∈ ((noted s p).applyGrant p).2) :
          r ∈ ((noted s p).applyGrant p).1.granted ∧ r ∉ s.granted :=
        ⟨mem_granted_applyGrant.mpr (.inr (mem_fresh_applyGrant.mp hr).1), (mem_fresh_applyGrant.mp hr).2⟩
      refine ⟨List.nodup_append.mpr ⟨nodup_fresh_applyGrant, hnodup, ?_⟩, fun r hr => ?_⟩
      · rintro r hr _ hr' rfl
        exact hnew r hr' (hold r hr).1
      · rcases List.mem_append.mp hr with hr | hr
        · exact (hold r hr).2
        · exact fun hm => hnew r hr (mem_granted_applyGrant.mpr (.inl hm))

/-- Each of some grants may be new, and so may the roles that it grants. -/
theorem advances_applyGrants (s : RoleResolution) {ps : List RolePolicy} (hps : ∀ p ∈ ps, p ∈ policies) :
    Advances policies s (s.applyGrants ps).1 (s.applyGrants ps).2 := by
  induction ps generalizing s with
  | nil => exact .refl
  | cons p ps ih =>
    obtain ⟨hp, hps⟩ := List.forall_mem_cons.mp hps
    rw [applyGrants_cons]
    by_cases hid : p.id ∈ s.seen
    · rw [if_pos hid]
      exact ih s hps
    · rw [if_neg hid]
      exact (advances_applyGrant hp hid).trans (ih _ hps)

theorem applyGrants_spec (distinct : (policies.map (·.id)).Nodup) (ps : List RolePolicy)
    (h : Gathering policies presented s) (hps : ∀ p ∈ ps, Applicable policies presented s p) :
    Gathering policies presented (s.applyGrants ps).1 ∧
      Advances policies s (s.applyGrants ps).1 (s.applyGrants ps).2 ∧
      ∀ p ∈ ps, p.id ∈ (s.applyGrants ps).1.seen := by
  induction ps generalizing s with
  | nil => exact ⟨h, .refl, by simp⟩
  | cons p ps ih =>
    obtain ⟨hp, hps⟩ := List.forall_mem_cons.mp hps
    rw [applyGrants_cons]
    by_cases hid : p.id ∈ s.seen
    · rw [if_pos hid]
      obtain ⟨hg, ha, hs⟩ := ih h hps
      exact ⟨hg, ha, List.forall_mem_cons.mpr ⟨ha.seen _ hid, hs⟩⟩
    · rw [if_neg hid]
      have ha := advances_applyGrant hp.1 hid
      obtain ⟨hg, ha', hs⟩ := ih (h.applyGrant distinct hp) fun p' hp' => (hps p' hp').mono ha
      refine ⟨hg, ha.trans ha', List.forall_mem_cons.mpr ⟨ha'.seen _ ?_, hs⟩⟩
      exact NameSet.mem_add.mpr (.inl rfl)

end Step

section Expand

/-- Only the new roles may have grants that have not been seen. -/
def Frontier (policies : List RolePolicy) (presented : List String) (s : RoleResolution)
    (fresh : List String) : Prop :=
  ∀ p ∈ policies, p.effect = .grant → p.id ∉ s.seen →
    ¬ p.IsDirect presented ∧ ∀ x ∈ s.granted, p.Names x → x ∈ fresh

/-- The number of policies that have not been seen. -/
def unseen (policies : List RolePolicy) (s : RoleResolution) : Nat :=
  (policies.filter fun p => p.id ∉ s.seen).length

theorem unseen_lt {fresh : List String} (h : Advances policies s s' fresh) (hf : fresh ≠ []) :
    unseen policies s' < unseen policies s := by
  obtain ⟨p, hp, hu, hs⟩ := h.news hf
  have hsub : policies.filter (fun p => p.id ∉ s'.seen) =
      (policies.filter fun p => p.id ∉ s.seen).filter fun p => p.id ∉ s'.seen := by
    rw [List.filter_filter]
    apply List.filter_congr
    intro p _
    have := h.seen p.id
    simp only [← Bool.decide_and, decide_eq_decide]
    tauto
  rw [unseen, unseen, hsub]
  apply List.length_filter_lt_length_iff_exists.mpr
  exact ⟨p, List.mem_filter.mpr ⟨hp, by simpa using hu⟩, by simpa using hs⟩

section Rounds
variable {τ : Type} {source source' : RoleSource (StateM τ)} (same : source.query = source'.query)
  (answered : ∀ principals seen t, ∀ p ∈ (source.query principals seen t).1.granted, p ∈ policies)
include same answered

/-- After as many rounds as policies have not been seen, nothing is left to ask for. -/
theorem expand_congr {n m : Nat} {fresh : List String} (hn : fresh = [] ∨ unseen policies s < n)
    (hm : fresh = [] ∨ unseen policies s < m) (t : τ) :
    s.expand source n fresh t = s.expand source' m fresh t := by
  induction n generalizing m s fresh t with
  | zero =>
    obtain rfl := hn.resolve_right (Nat.not_lt_zero _)
    cases m with
    | zero => rfl
    | succ m => rfl
  | succ n ih =>
    cases fresh with
    | nil =>
      cases m with
      | zero => rfl
      | succ m => rfl
    | cons r fresh =>
      have hn := hn.resolve_left (List.cons_ne_nil r fresh)
      have hm := hm.resolve_left (List.cons_ne_nil r fresh)
      cases m with
      | zero => exact absurd hm (Nat.not_lt_zero _)
      | succ m =>
        have ha := advances_applyGrants s (answered ((r :: fresh).map Role.principal) s.seen t)
        have hless {k : Nat} (hk : unseen policies s < k + 1) :=
          or_iff_not_imp_left.mpr fun hne => Nat.lt_of_lt_of_le (unseen_lt ha hne) (Nat.le_of_lt_succ hk)
        simp only [expand]
        rw [← same]
        exact ih (hless hn) (hless hm) _

/-- Sources that are large enough are told apart by their answers only. -/
theorem resolve_congr_size (size : policies.length ≤ source.size) (size' : policies.length ≤ source'.size)
    (presented : List String) : source.resolve presented = source'.resolve presented := by
  have hexpand (s : RoleResolution) (fresh : List String) :
      s.expand source (source.size + 1) fresh = s.expand source' (source'.size + 1) fresh := by
    have hunseen : unseen policies s ≤ policies.length := List.length_filter_le ..
    exact funext fun t => expand_congr same answered (.inr (Nat.lt_succ_of_le (hunseen.trans size)))
      (.inr (Nat.lt_succ_of_le (hunseen.trans size'))) t
  rw [RoleSource.resolve, RoleSource.resolve, RoleSource.gather, RoleSource.gather]
  simp only [hexpand, same]

end Rounds

/-- A round leaves no grant unseen that a new role has. -/
private theorem round_spec {τ : Type} {source : RoleSource (StateM τ)}
    (distinct : (policies.map (·.id)).Nodup) (serves : source.ServesFrom policies presented)
    {fresh : List String} (hne : fresh ≠ []) (h : Gathering policies presented s)
    (hf : Frontier policies presented s fresh) (hm : ∀ r ∈ fresh, r ∈ s.granted) (t : τ) :
    let answer := (source.query (fresh.map Role.principal) s.seen t).1
    let s' := (s.applyGrants answer.granted).1
    let more := (s.applyGrants answer.granted).2
    Gathering policies presented s' ∧ Frontier policies presented s' more ∧
      Advances policies s s' more := by
  have hasked : fresh.map Role.principal ≠ [] := fun hnil => hne (List.map_eq_nil_iff.mp hnil)
  have hans (p : RolePolicy) := serves.granted (fresh.map Role.principal) (.inr hasked) s.seen t p
  generalize (source.query (fresh.map Role.principal) s.seen t).1 = answer at hans
  simp only [RolePolicy.isDirect_roles_iff] at hans
  obtain ⟨hg, ha, hs⟩ := applyGrants_spec distinct answer.granted h fun p hp => by
    obtain ⟨hp, he, hu, hd⟩ := (hans p).mp hp
    refine ⟨hp, he, .inr ?_⟩
    obtain ⟨x, hx, hn⟩ := hd.resolve_left fun hd => (hf p hp he hu).1 (.inl hd)
    exact ⟨x, hm x hx, hn⟩
  refine ⟨hg, fun p hp he hu => ?_, ha⟩
  have hu' : p.id ∉ s.seen := fun hid => hu (ha.seen _ hid)
  obtain ⟨hd, hx⟩ := hf p hp he hu'
  refine ⟨hd, fun x hm' hn => ?_⟩
  rcases (ha.granted x).mp hm' with hm' | hm'
  · exact absurd (hs p ((hans p).mpr ⟨hp, he, hu', .inr ⟨x, hx x hm' hn, hn⟩⟩)) hu
  · exact hm'

theorem expand_spec {τ : Type} {source : RoleSource (StateM τ)}
    (distinct : (policies.map (·.id)).Nodup) (serves : source.ServesFrom policies presented) (n : Nat)
    {fresh : List String} (h : Gathering policies presented s)
    (hf : Frontier policies presented s fresh) (hm : ∀ r ∈ fresh, r ∈ s.granted)
    (hn : fresh = [] ∨ unseen policies s < n) (t : τ) :
    Gathering policies presented (s.expand source n fresh t).1 ∧
      Frontier policies presented (s.expand source n fresh t).1 [] := by
  induction n generalizing s fresh t with
  | zero =>
    obtain rfl := hn.resolve_right (Nat.not_lt_zero _)
    exact ⟨h, hf⟩
  | succ n ih =>
    cases fresh with
    | nil => exact ⟨h, hf⟩
    | cons r fresh =>
      have hlt := hn.resolve_left (List.cons_ne_nil r fresh)
      obtain ⟨hg, hf', ha⟩ := round_spec distinct serves (List.cons_ne_nil r fresh) h hf hm t
      apply ih hg hf' fun r hr => (ha.granted r).mpr (.inr hr)
      by_cases hne : (s.applyGrants
          (source.query ((r :: fresh).map Role.principal) s.seen t).1.granted).2 = []
      · exact .inl hne
      · exact .inr (Nat.lt_of_lt_of_le (unseen_lt ha hne) (Nat.le_of_lt_succ hlt))

/-- What each applicable grant keeps is kept while grants spread. -/
theorem expand_induct {τ : Type} {source : RoleSource (StateM τ)}
    (serves : source.ServesFrom policies presented) {motive : RoleResolution → Prop}
    (step : ∀ s p, motive s → Applicable policies presented s p →
      motive ({ s with seen := s.seen.add p.id }.applyGrant p).1)
    (n : Nat) {fresh : List String} (h : motive s) (hm : ∀ r ∈ fresh, r ∈ s.granted) (t : τ) :
    motive (s.expand source n fresh t).1 := by
  induction n generalizing s fresh t with
  | zero => exact h
  | succ n ih =>
    cases fresh with
    | nil => exact h
    | cons r fresh =>
      have hasked : (r :: fresh).map Role.principal ≠ [] := List.cons_ne_nil _ _
      have hans (p : RolePolicy) := serves.granted _ (.inr hasked) s.seen t p
      refine ih ?_ (grown_applyGrants s _).2 _
      -- The roles that were asked about stay granted meanwhile.
      refine (applyGrants_induct (motive := fun s' => motive s' ∧ ∀ x ∈ s.granted, x ∈ s'.granted) _
        ⟨h, fun _ hx => hx⟩ fun s' hs' p hp => ?_).1
      obtain ⟨hp, he, -, hd⟩ := (hans p).mp hp
      refine ⟨step s' p hs'.1 ⟨hp, he, ?_⟩, fun x hx => mem_granted_applyGrant.mpr (.inl (hs'.2 x hx))⟩
      rcases RolePolicy.isDirect_roles_iff.mp hd with hd | ⟨x, hx, hn⟩
      · exact .inl (.inl hd)
      · exact .inr ⟨x, hs'.2 x (hm x hx), hn⟩

/-- When grants have stopped spreading, they have reached every role that policies grant. -/
theorem Frontier.complete (hf : Frontier policies presented s [])
    (h : Gathering policies presented s) {r : String} (hr : Granted policies presented r) :
    r ∈ s.granted := by
  induction hr with
  | @direct p role hp he hd hr hn =>
    have hid : p.id ∈ s.seen := Classical.not_not.mp fun hu => (hf p hp he hu).1 hd
    exact (h.grants p hp he hid role hr hn).1
  | @through p parent role hp he hx hg hr hn ih =>
    have hid : p.id ∈ s.seen := Classical.not_not.mp fun hu => by
      simpa using (hf p hp he hu).2 parent ih hx
    exact (h.grants p hp he hid role hr hn).1

end Expand

end Turnstile.RoleResolution

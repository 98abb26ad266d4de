import Turnstile.Proofs.Role.Collection

/-! A resolution draws the edges of every policy that applies, and no others. What it collects does not tell in which
order the policies came, nor under which identifiers. -/
namespace Turnstile

/-- What a node is connected to, and how. -/
inductive EdgeKind where
  | parentPrincipals
  | parentRoles
  | childRoles
  | deniedRoles
  | deniedByRoles
  | deniedByPrincipals

namespace EdgeKind

def of : EdgeKind → RoleNode → NameSet
  | parentPrincipals => RoleNode.parentPrincipals
  | parentRoles => RoleNode.parentRoles
  | childRoles => RoleNode.childRoles
  | deniedRoles => RoleNode.deniedRoles
  | deniedByRoles => RoleNode.deniedByRoles
  | deniedByPrincipals => RoleNode.deniedByPrincipals

/-- The other end is a role. -/
def JoinsRoles : EdgeKind → Prop
  | parentPrincipals => False
  | deniedByPrincipals => False
  | _ => True

end EdgeKind

theorem RoleNode.ext_edges {n m : RoleNode} (h : ∀ kind : EdgeKind, kind.of n = kind.of m) : n = m := by
  obtain ⟨_, _, _, _, _, _⟩ := n
  obtain ⟨_, _, _, _, _, _⟩ := m
  obtain rfl := h .parentPrincipals
  obtain rfl := h .parentRoles
  obtain rfl := h .childRoles
  obtain rfl := h .deniedRoles
  obtain rfl := h .deniedByRoles
  obtain rfl := h .deniedByPrincipals
  rfl

theorem NameSet.ext {a b : NameSet} (h : ∀ x, x ∈ a ↔ x ∈ b) : a = b := by
  apply Dict.ext_get?
  intro x
  apply Option.ext
  rintro ⟨⟩
  constructor
  · intro ha
    obtain ⟨⟨⟩, hb⟩ := Dict.mem_iff.mp ((h x).mp (Dict.mem_of_get? ha))
    exact hb
  · intro hb
    obtain ⟨⟨⟩, ha⟩ := Dict.mem_iff.mp ((h x).mpr (Dict.mem_of_get? hb))
    exact ha

/-- Graphs with the same nodes and the same edges are equal. -/
theorem RoleGraph.ext_edges {g g' : RoleGraph} (hnodes : ∀ r, r ∈ g.nodes ↔ r ∈ g'.nodes)
    (hedges : ∀ (kind : EdgeKind) r q, q ∈ kind.of (g.edges r) ↔ q ∈ kind.of (g'.edges r)) : g = g' := by
  obtain ⟨nodes⟩ := g
  obtain ⟨nodes'⟩ := g'
  congr
  apply Dict.ext_get?
  intro r
  by_cases hr : r ∈ nodes
  · have hnode := node?_of_mem (g := ⟨nodes⟩) hr
    have hnode' := node?_of_mem (g := ⟨nodes'⟩) ((hnodes r).mp hr)
    have hsame : edges ⟨nodes⟩ r = edges ⟨nodes'⟩ r :=
      RoleNode.ext_edges fun kind => NameSet.ext fun q => hedges kind r q
    exact hnode.trans ((congrArg some hsame).trans hnode'.symm)
  · rw [Dict.get?_eq_none_iff.mpr hr, Dict.get?_eq_none_iff.mpr fun h => hr ((hnodes r).mpr h)]

theorem RoleGraph.mem_of_restrictTo (kind : EdgeKind) {g : RoleGraph} {keep : String → Bool} {r q : String} :
    q ∈ kind.of ((g.restrictTo keep).edges r) ↔
      keep r = true ∧ q ∈ kind.of (g.edges r) ∧ (kind.JoinsRoles → keep q = true) := by
  have hbetween (of : RoleNode → NameSet) (he : of {} = .empty)
      (hk : ∀ n, q ∈ of (n.restrict keep) ↔ q ∈ of n ∧ keep q = true) :
      q ∈ of ((g.restrictTo keep).edges r) ↔
        keep r = true ∧ q ∈ of (g.edges r) ∧ (True → keep q = true) := by
    rw [forall_const, mem_edges_restrictTo of _ he hk]
  have hfrom (of : RoleNode → NameSet) (he : of {} = .empty) (hk : ∀ n, of (n.restrict keep) = of n) :
      q ∈ of ((g.restrictTo keep).edges r) ↔
        keep r = true ∧ q ∈ of (g.edges r) ∧ (False → keep q = true) := by
    rw [mem_edges_restrictTo of (False → keep q = true) he fun n => by rw [hk, and_iff_left False.elim]]
  cases kind with
  | parentPrincipals => exact hfrom (·.parentPrincipals) rfl fun _ => rfl
  | parentRoles => exact hbetween (·.parentRoles) rfl fun _ => NameSet.mem_filter
  | childRoles => exact hbetween (·.childRoles) rfl fun _ => NameSet.mem_filter
  | deniedRoles => exact hbetween (·.deniedRoles) rfl fun _ => NameSet.mem_filter
  | deniedByRoles => exact hbetween (·.deniedByRoles) rfl fun _ => NameSet.mem_filter
  | deniedByPrincipals => exact hfrom (·.deniedByPrincipals) rfl fun _ => rfl

namespace RolePolicy
variable (policies : List RolePolicy) (presented : List String) (p : RolePolicy)

/-- A presented principal that leads to the policy, or the root of policies without principals. -/
def Roots (q : String) : Prop :=
  p.principals = [] ∧ q = RoleResolution.anyPrincipal ∨
    q ∈ p.principals ∧ (q = RoleResolution.anyPrincipal ∨ q ∈ presented)

/-- A role that leads to the policy, and is not presented itself. -/
def Calls (r : String) : Prop := p.Names r ∧ Role.principal r ∉ presented

/-- A role of the policy that is not directly denied. -/
def Opens (r : String) : Prop := r ∈ p.roles ∧ ¬ DirectlyDenied policies presented r

/-- The edges that stand for the policy. -/
def Draws : EdgeKind → String → String → Prop
  | .parentPrincipals, r, q => p.effect = .grant ∧ p.Opens policies presented r ∧ p.Roots presented q
  | .parentRoles, r, q => p.effect = .grant ∧ p.Opens policies presented r ∧ p.Calls presented q
  | .childRoles, r, q => p.effect = .grant ∧ p.Calls presented r ∧ p.Opens policies presented q
  | .deniedRoles, r, q => p.effect = .deny ∧ p.Calls presented r ∧ q ∈ p.roles
  | .deniedByRoles, r, q => p.effect = .deny ∧ r ∈ p.roles ∧ p.Calls presented q
  | .deniedByPrincipals, r, q => p.effect = .deny ∧ r ∈ p.roles ∧ p.Roots presented q

/-- The policy applies to the subject as such or through a role that it is granted. -/
def Applies : Prop := p.IsDirect presented ∨ ∃ x, Granted policies presented x ∧ p.Names x

end RolePolicy

namespace RoleResolution
variable {policies : List RolePolicy} {presented : List String} {s : RoleResolution} {p : RolePolicy}
  {kind : EdgeKind} {r q : String}

theorem mem_split_principals (h : RootedAt presented s) : q ∈ (s.split p).1 ↔ p.Roots presented q := by
  have hroot : s.rooted.contains q = true ↔ q = anyPrincipal ∨ q ∈ presented := h q
  by_cases hp : p.principals = []
  · simp [split, hp, RolePolicy.Roots]
  · simp only [split, List.isEmpty_iff, hp, if_false, List.mem_filter, hroot, RolePolicy.Roots, false_and,
      false_or]

theorem mem_of_applyGrant (hrooted : RootedAt presented s)
    (hdirect : ∀ r, r ∈ s.directlyDenied ↔ DirectlyDenied policies presented r) (he : p.effect = .grant) :
    q ∈ kind.of ((s.applyGrant p).1.graph.edges r) ↔
      q ∈ kind.of (s.graph.edges r) ∨ p.Draws policies presented kind r q := by
  have hopen (x : String) : x ∈ s.openRoles p ↔ p.Opens policies presented x := by
    rw [mem_openRoles, hdirect, RolePolicy.Opens]
  have hroots (x : String) := mem_split_principals (q := x) (p := p) hrooted
  have hcalls (x : String) : x ∈ (s.split p).2 ↔ p.Calls presented x := mem_split_roles hrooted
  have hnot : p.effect ≠ .deny := by
    rw [he]
    exact nofun
  have hsame {of : RoleNode → NameSet} (hp : ∀ n, of (addParents (s.split p).1 (s.split p).2 n) = of n)
      (hc : ∀ n, of (addChildren (s.openRoles p) n) = of n) :
      q ∈ of ((s.applyGrant p).1.graph.edges r) ↔ q ∈ of (s.graph.edges r) := by
    rw [mem_edges_applyGrant (fun _ => False) (fun _ => False) (fun n q => by rw [hp, or_false])
      (fun n q => by rw [hc, or_false])]
    simp only [and_false, or_false]
  cases kind with
  | parentPrincipals =>
    refine mem_parentPrincipals_applyGrant.trans (or_congr_right ?_)
    rw [hopen, hroots, RolePolicy.Draws, and_iff_right he]
  | parentRoles =>
    refine mem_parentRoles_applyGrant.trans (or_congr_right ?_)
    rw [hopen, hcalls, RolePolicy.Draws, and_iff_right he]
  | childRoles =>
    refine mem_childRoles_applyGrant.trans (or_congr_right ?_)
    rw [hopen, hcalls, RolePolicy.Draws, and_iff_right he]
  | deniedRoles => exact (hsame (fun _ => rfl) fun _ => rfl).trans (or_iff_left fun h => hnot h.1).symm
  | deniedByRoles => exact (hsame (fun _ => rfl) fun _ => rfl).trans (or_iff_left fun h => hnot h.1).symm
  | deniedByPrincipals => exact (hsame (fun _ => rfl) fun _ => rfl).trans (or_iff_left fun h => hnot h.1).symm

theorem mem_of_applyDeny (hrooted : RootedAt presented s) (he : p.effect = .deny) :
    q ∈ kind.of ((s.applyDeny p).graph.edges r) ↔
      q ∈ kind.of (s.graph.edges r) ∨ p.Draws policies presented kind r q := by
  have hroots (x : String) := mem_split_principals (q := x) (p := p) hrooted
  have hcalls (x : String) : x ∈ (s.split p).2 ↔ p.Calls presented x := mem_split_roles hrooted
  have hnot : p.effect ≠ .grant := by
    rw [he]
    exact nofun
  have hadds (of : RoleNode → NameSet) (down up : String → Prop)
      (hd : ∀ n q, q ∈ of (addDenied p.roles n) ↔ q ∈ of n ∨ down q)
      (hr : ∀ n q, q ∈ of (addDeniers (s.split p).1 (s.split p).2 n) ↔ q ∈ of n ∨ up q) :
      q ∈ of ((s.applyDeny p).graph.edges r) ↔
        q ∈ of (s.graph.edges r) ∨ p.Calls presented r ∧ down q ∨ r ∈ p.roles ∧ up q := by
    rw [mem_edges_applyDeny down up hd hr, hcalls]
  have hsame {of : RoleNode → NameSet} (hd : ∀ n, of (addDenied p.roles n) = of n)
      (hr : ∀ n, of (addDeniers (s.split p).1 (s.split p).2 n) = of n) :
      q ∈ of ((s.applyDeny p).graph.edges r) ↔ q ∈ of (s.graph.edges r) := by
    rw [hadds of (fun _ => False) (fun _ => False) (fun n q => by rw [hd, or_false]) fun n q => by rw [hr, or_false]]
    simp only [and_false, or_false]
  cases kind with
  | parentPrincipals => exact (hsame (fun _ => rfl) fun _ => rfl).trans (or_iff_left fun h => hnot h.1).symm
  | parentRoles => exact (hsame (fun _ => rfl) fun _ => rfl).trans (or_iff_left fun h => hnot h.1).symm
  | childRoles => exact (hsame (fun _ => rfl) fun _ => rfl).trans (or_iff_left fun h => hnot h.1).symm
  | deniedRoles =>
    refine (hadds (·.deniedRoles) (· ∈ p.roles) (fun _ => False) (by simp [addDenied]) (by simp [addDeniers])).trans ?_
    rw [and_false, or_false, RolePolicy.Draws, and_iff_right he]
    exact Iff.rfl
  | deniedByRoles =>
    refine (hadds (·.deniedByRoles) (fun _ => False) (· ∈ (s.split p).2) (by simp [addDenied])
      (by simp [addDeniers])).trans ?_
    rw [and_false, false_or, hcalls, RolePolicy.Draws, and_iff_right he]
    exact Iff.rfl
  | deniedByPrincipals =>
    refine (hadds (·.deniedByPrincipals) (fun _ => False) (· ∈ (s.split p).1) (by simp [addDenied])
      (by simp [addDeniers])).trans ?_
    rw [and_false, false_or, hroots, RolePolicy.Draws, and_iff_right he]
    exact Iff.rfl

/-- What has been drawn are the edges of the policies that have been seen, and these apply. -/
structure Drawn (policies : List RolePolicy) (presented : List String) (s : RoleResolution) : Prop where
  rooted : RootedAt presented s
  edges : ∀ (kind : EdgeKind) r q, q ∈ kind.of (s.graph.edges r) ↔
    ∃ p ∈ policies, p.id ∈ s.seen ∧ p.Draws policies presented kind r q
  applies : ∀ p ∈ policies, p.id ∈ s.seen → p.Applies policies presented

theorem drawn_start : Drawn policies presented (start presented) where
  rooted := rootedAt_start presented
  edges kind r q := by
    refine iff_of_false ?_ fun ⟨_, _, hs, _⟩ => Dict.not_mem_empty _ hs
    have hnone : (start presented).graph.edges r = {} := RoleGraph.edges_of_not_mem (Dict.not_mem_empty r)
    rw [hnone]
    cases kind with
    | _ => exact Dict.not_mem_empty q
  applies _ _ hs := absurd hs (Dict.not_mem_empty _)

section Step
variable (distinct : (policies.map (·.id)).Nodup)
include distinct

private theorem Drawn.note {s' : RoleResolution} (h : Drawn policies presented s) (hp : p ∈ policies)
    (ha : p.Applies policies presented) (hrooted : s'.rooted = s.rooted) (hseen : s'.seen = s.seen.add p.id)
    (hedges : ∀ (kind : EdgeKind) r q, q ∈ kind.of (s'.graph.edges r) ↔
      q ∈ kind.of (s.graph.edges r) ∨ p.Draws policies presented kind r q) : Drawn policies presented s' where
  rooted q := by
    rw [hrooted]
    exact h.rooted q
  edges kind r q := by
    rw [hedges, h.edges, hseen]
    simp only [NameSet.mem_add]
    constructor
    · rintro (⟨p', hp', hs, hd⟩ | hd)
      · exact ⟨p', hp', .inr hs, hd⟩
      · exact ⟨p, hp, .inl rfl, hd⟩
    · rintro ⟨p', hp', he | hs, hd⟩
      · obtain rfl := eq_of_id_eq distinct hp' hp he
        exact .inr hd
      · exact .inl ⟨p', hp', hs, hd⟩
  applies p' hp' hs := by
    rw [hseen, NameSet.mem_add] at hs
    rcases hs with he | hs
    · obtain rfl := eq_of_id_eq distinct hp' hp he
      exact ha
    · exact h.applies p' hp' hs

theorem Drawn.applyGrant (h : Drawn policies presented s) (hg : Gathering policies presented s)
    (hp : Applicable policies presented s p) :
    Drawn policies presented ({ s with seen := s.seen.add p.id }.applyGrant p).1 := by
  obtain ⟨hmem, he, ha⟩ := hp
  refine h.note distinct hmem ?_ rfl rfl fun kind r q => ?_
  · exact ha.imp_right fun ⟨x, hx, hn⟩ => ⟨x, hg.sound x hx, hn⟩
  · exact mem_of_applyGrant (s := { s with seen := s.seen.add p.id }) h.rooted hg.direct he

theorem Drawn.applyDenies (h : Drawn policies presented s) {ps : List RolePolicy}
    (hps : ∀ p ∈ ps, p ∈ policies ∧ p.effect = .deny ∧ p.Applies policies presented) :
    Drawn policies presented (s.applyDenies ps) := by
  have hkept (s : RoleResolution) (p : RolePolicy) : (s.applyDeny p).rooted = s.rooted ∧
      (s.applyDeny p).seen = s.seen := by
    rw [applyDeny]
    dsimp only
    split
    · exact ⟨rfl, rfl⟩
    · exact ⟨rfl, rfl⟩
  refine applyDenies_induct ps h fun s hs p hp => ?_
  obtain ⟨hmem, he, ha⟩ := hps p hp
  obtain ⟨hrooted, hseen⟩ := hkept { s with seen := s.seen.add p.id } p
  refine hs.note distinct hmem ha hrooted hseen fun kind r q => ?_
  exact mem_of_applyDeny (s := { s with seen := s.seen.add p.id }) hs.rooted he

end Step

section Gather
variable {τ : Type} {source : RoleSource (StateM τ)} (distinct : (policies.map (·.id)).Nodup)
  (serves : source.ServesFrom policies presented)
include distinct serves

theorem drawn_spread (t : τ) : Drawn policies presented (spread source presented t).1 := by
  let direct := source.query presented (start presented).seen t
  have hnew (p : RolePolicy) : p.id ∉ (start presented).seen := Dict.not_mem_empty p.id
  have hd (p : RolePolicy) : p ∈ direct.1.denied ↔ p ∈ policies ∧ p.effect = .deny ∧ p.IsDirect presented := by
    rw [serves.denied _ (.inl rfl), eq_true (hnew p), true_and]
  have hg (p : RolePolicy) : p ∈ direct.1.granted ↔ p ∈ policies ∧ p.effect = .grant ∧ p.IsDirect presented := by
    rw [serves.granted _ (.inl rfl), eq_true (hnew p), true_and]
  let Both (s : RoleResolution) : Prop := Gathering policies presented s ∧ Drawn policies presented s
  have hstep (s : RoleResolution) (p : RolePolicy) (hs : Both s) (hp : Applicable policies presented s p) :
      Both ({ s with seen := s.seen.add p.id }.applyGrant p).1 :=
    ⟨hs.1.applyGrant distinct hp, hs.2.applyGrant distinct hs.1 hp⟩
  have hstart : Both ((start presented).applyDenies direct.1.denied) := by
    refine ⟨gathering_start distinct hd, drawn_start.applyDenies distinct fun p hp => ?_⟩
    obtain ⟨hmem, he, hdirect⟩ := (hd p).mp hp
    exact ⟨hmem, he, .inl hdirect⟩
  have hdirect : Both (((start presented).applyDenies direct.1.denied).applyGrants direct.1.granted).1 := by
    refine applyGrants_induct _ hstart fun s hs p hp => hstep s p hs ?_
    obtain ⟨hmem, he, hdirect⟩ := (hg p).mp hp
    exact ⟨hmem, he, .inl hdirect⟩
  exact (expand_induct serves hstep _ hdirect (grown_applyGrants _ _).2 _).2

/-- In the end all policies that apply have been seen. -/
private theorem drawn_end (t u : τ) :
    let s := (spread source presented t).1
    let s' := s.applyDenies (source.query (s.granted.toList.map Role.principal) s.seen u).1.denied
    Drawn policies presented s' ∧ ∀ p ∈ policies, p.Applies policies presented → p.id ∈ s'.seen := by
  intro s s'
  obtain ⟨h, hf⟩ := gathering_spread distinct serves t
  have hdenying := denying_served distinct serves h u
  constructor
  · refine (drawn_spread distinct serves t).applyDenies distinct fun p hp => ?_
    by_cases hs : p.id ∈ s.seen
    · obtain ⟨hmem, he⟩ := mem_of_served serves _ _ _ hp
      exact ⟨hmem, he, (drawn_spread distinct serves t).applies p hmem hs⟩
    · obtain ⟨hmem, he, -, d, hd, hn⟩ := (pending_iff_served serves h u p).mp ⟨hp, hs⟩
      exact ⟨hmem, he, .inr ⟨d, h.sound d hd, hn⟩⟩
  · intro p hp ha
    by_cases hs : p.id ∈ s.seen
    · exact (hdenying.seen _).mpr (.inl hs)
    · cases he : p.effect with
      | grant =>
        obtain ⟨hdirect, hnone⟩ := hf p hp he hs
        obtain ⟨x, hx, hn⟩ := ha.resolve_left hdirect
        exact absurd (hnone x (hf.complete h hx) hn) List.not_mem_nil
      | deny =>
        have hdirect : ¬ p.IsDirect presented := fun hd => hs ((h.denies p hp he).mpr hd)
        obtain ⟨x, hx, hn⟩ := ha.resolve_left hdirect
        exact (hdenying.seen _).mpr (.inr ⟨p, ⟨hp, he, hdirect, x, hf.complete h hx, hn⟩, rfl⟩)

/-- The edges between granted roles are those of the policies that apply. -/
theorem mem_of_gather (kind : EdgeKind) (r q : String) (t : τ) :
    q ∈ kind.of ((source.gather presented t).1.graph.edges r) ↔
      Granted policies presented r ∧ (kind.JoinsRoles → Granted policies presented q) ∧
        ∃ p ∈ policies, p.Applies policies presented ∧ p.Draws policies presented kind r q := by
  have hgranted := (collected_gather_from distinct serves t).granted
  obtain ⟨u, hgather⟩ := gather_eq source presented t
  obtain ⟨hdrawn, hseen⟩ := drawn_end distinct serves t u
  rw [hgather] at hgranted ⊢
  have hkeep (x : String) := Dict.contains_iff.trans (hgranted x)
  have happlied : (∃ p ∈ policies, p.id ∈ ((spread source presented t).1.applyDenies _).seen ∧
      p.Draws policies presented kind r q) ↔
      ∃ p ∈ policies, p.Applies policies presented ∧ p.Draws policies presented kind r q :=
    exists_congr fun p => and_congr_right fun hp => and_congr_left fun _ =>
      ⟨hdrawn.applies p hp, hseen p hp⟩
  refine (RoleGraph.mem_of_restrictTo kind).trans ?_
  rw [hkeep, hkeep, hdrawn.edges, happlied]
  tauto

end Gather

end RoleResolution
end Turnstile

import Mathlib.Data.Set.Finite.Basic
import Mathlib.Order.WellFounded
import Turnstile.Proofs.Role.Collection

/-! Denials that take effect on collected roles. One denial leaves the roles with a chain of grants that
avoids the denied role; a round leaves the deniers that made it safe. -/
namespace Turnstile.RoleResolution
variable {policies : List RolePolicy} {presented : List String} {s s' : RoleResolution}

section Step
variable {x r : String}

theorem Settling.mem_granted_deny (h : Settling policies presented s) :
    r ∈ (s.deny x).granted ↔ r ∈ s.granted ∧ r ∉ s.graph.lost x ∧ s.graph.Held x r := by
  refine RoleGraph.mem_granted_deny.trans (and_congr_right fun hr => and_congr_right fun _ => ?_)
  rw [h.nodes, imp_iff_right hr]

theorem mem_granted_of_deny (h : r ∈ (s.deny x).granted) : r ∈ s.granted ∧ r ≠ x := by
  obtain ⟨hr, hlost, -⟩ := RoleGraph.mem_granted_deny.mp h
  refine ⟨hr, ?_⟩
  rintro rfl
  exact hlost List.mem_cons_self

theorem graph_deny (s : RoleResolution) (x : String) :
    (s.deny x).graph = (s.graph.deny x s.granted).1 := rfl

theorem mem_deniedByRoles_of_deny {d : String}
    (h : d ∈ ((s.deny x).graph.edges r).deniedByRoles) : d ∈ (s.graph.edges r).deniedByRoles := by
  rw [graph_deny] at h
  exact RoleGraph.mem_deniedByRoles_of_deny h

/-- A denial keeps what the graph shows of the roles that it leaves. -/
theorem Settling.deny (h : Settling policies presented s) (x : String) :
    Settling policies presented (s.deny x) := by
  have hnodes (r : String) : r ∈ (s.deny x).graph.nodes ↔ r ∈ (s.deny x).granted := by
    rw [h.mem_granted_deny, graph_deny, RoleGraph.mem_nodes_deny, h.nodes]
  have hedges {r : String} (hr : r ∈ (s.deny x).granted) :
      (s.deny x).graph.edges r = (s.graph.edges r).restrict (s.graph.staying x) := by
    rw [← hnodes, graph_deny] at hr
    rw [graph_deny, RoleGraph.edges_deny hr]
  have hstay {r : String} (hr : r ∈ (s.deny x).granted) : s.graph.staying x r = true :=
    RoleGraph.staying_iff.mpr (h.mem_granted_deny.mp hr).2.1
  have hmissing {r : String} (hr : r ∉ (s.deny x).granted) : (s.deny x).graph.edges r = {} :=
    RoleGraph.edges_of_not_mem fun hn => hr ((hnodes r).mp hn)
  exact {
    sound := fun r hr => h.sound r (mem_granted_of_deny hr).1
    nodes := hnodes
    grants := fun p hp he r hr hg => by
      refine (h.grants p hp he r hr (mem_granted_of_deny hg).1).mono
        (fun y hy => (mem_granted_of_deny hy).1) (fun q hq => ?_) fun y hy hg' => ?_
      · rw [hedges hg]
        exact hq
      · rw [hedges hg]
        exact NameSet.mem_filter.mpr ⟨hy, hstay hg'⟩
    denies := fun r hr d hd hn => by
      rw [hedges hr]
      refine NameSet.mem_filter.mpr ⟨?_, hstay hd⟩
      exact h.denies r (mem_granted_of_deny hr).1 d (mem_granted_of_deny hd).1 hn
    parents := fun r y hy => by
      by_cases hr : r ∈ (s.deny x).granted
      · rw [hedges hr] at hy
        exact h.parents r y (NameSet.mem_filter.mp hy).1
      · rw [hmissing hr] at hy
        exact absurd hy (Dict.not_mem_empty y)
    deniers := fun r d hd => h.deniers r d (mem_deniedByRoles_of_deny hd) }

/-- A role with a chain of grants that avoids the denied role is not lost. -/
theorem Settling.stays (h : Settling policies presented s) (hr : r ∈ s.granted) (hx : r ≠ x)
    (hc : Chain policies presented (fun y => y ∈ s.granted ∧ y ≠ x) r) : r ∈ (s.deny x).granted := by
  have key {r : String} (hr : r ∈ s.granted) (hx : r ≠ x) (hh : s.graph.Held x r) :
      r ∈ (s.deny x).granted :=
    h.mem_granted_deny.mpr ⟨hr, hh.not_mem_lost hx, hh⟩
  induction hc with
  | @direct p role hp he hd hm => exact key hr hx (.inl ((h.grants p hp he role hm hr).root hd))
  | @through p parent role hp he hn hs _ hm ih =>
    refine key hr hx ?_
    have hparent := h.mem_granted_deny.mp (ih hs.1 hs.2)
    rcases (h.grants p hp he role hm hr).parent parent hs.1 hn with hp | hp
    · exact .inr ⟨parent, hp, hparent.2.1⟩
    · exact .inl hp

theorem Settling.foldl_deny (h : Settling policies presented s) (roles : List String) :
    Settling policies presented (roles.foldl RoleResolution.deny s) := by
  induction roles generalizing s with
  | nil => exact h
  | cons x roles ih => exact ih (h.deny x)

theorem mem_granted_of_foldl_deny {roles : List String} (h : r ∈ (roles.foldl deny s).granted) :
    r ∈ s.granted ∧ r ∉ roles := by
  induction roles generalizing s with
  | nil => exact ⟨h, List.not_mem_nil⟩
  | cons x roles ih =>
    obtain ⟨hr, hm⟩ := ih h
    obtain ⟨hr, hx⟩ := mem_granted_of_deny hr
    exact ⟨hr, fun hmem => (List.mem_cons.mp hmem).elim hx hm⟩

theorem mem_deniedByRoles_of_foldl_deny {roles : List String} {d : String}
    (h : d ∈ ((roles.foldl deny s).graph.edges r).deniedByRoles) :
    d ∈ (s.graph.edges r).deniedByRoles := by
  induction roles generalizing s with
  | nil => exact h
  | cons x roles ih => exact mem_deniedByRoles_of_deny (ih h)

/-- A chain of grants that avoids a number of denied roles is still there when they are lost. -/
theorem supports_foldl_deny {denied : String → Prop} {roles : List String}
    (hd : ∀ x ∈ roles, denied x) (h : s.graph.Supports denied r) :
    (roles.foldl deny s).graph.Supports denied r := by
  induction roles generalizing s with
  | nil => exact h
  | cons x roles ih =>
    obtain ⟨hx, hd⟩ := List.forall_mem_cons.mp hd
    apply ih hd
    rw [graph_deny]
    exact h.deny hx

/-- A role that some denials lose is denied itself, or nothing that they leave holds it. -/
theorem Settling.dropped (h : Settling policies presented s) {roles : List String}
    (hr : r ∈ s.granted) (hn : r ∉ (roles.foldl RoleResolution.deny s).granted) :
    r ∈ roles ∨
      ¬ Chain policies presented (· ∈ (roles.foldl RoleResolution.deny s).granted) r := by
  induction roles generalizing s with
  | nil => exact absurd hr hn
  | cons x roles ih =>
    by_cases hx : r = x
    · exact .inl (hx ▸ List.mem_cons_self)
    by_cases hs : r ∈ (s.deny x).granted
    · exact (ih (h.deny x) hs hn).imp_left (List.mem_cons_of_mem x)
    · refine .inr fun hc => hs (h.stays hr hx (hc.mono fun y hy => ?_))
      obtain ⟨hy, hm⟩ := mem_granted_of_foldl_deny hy
      exact ⟨hy, fun hyx => hm (hyx ▸ List.mem_cons_self)⟩

end Step

section Run

/-- The state that safe denials lead to, when none is left. -/
def saturate : Nat → RoleResolution → RoleResolution
  | 0, s => s
  | rounds + 1, s => if s.safe.isEmpty then s else saturate rounds s.settleSafe

/-- The denials of a settlement, in order. -/
def denials : Nat → RoleResolution → List String
  | 0, _ => []
  | rounds + 1, s =>
    if s.safe.isEmpty then s.denied.toList else s.safe ++ denials rounds s.settleSafe

private theorem foldl_deny_with (roles : List String) (s : RoleResolution) (denied : NameSet) :
    roles.foldl deny { s with denied } = { roles.foldl deny s with denied } := by
  induction roles generalizing s with
  | nil => rfl
  | cons x roles ih => exact ih (s.deny x)

private theorem settle_eq (n : Nat) (s : RoleResolution) :
    ∃ denied, s.settle n = { (s.denials n).foldl deny s with denied } := by
  induction n generalizing s with
  | zero => exact ⟨s.denied, rfl⟩
  | succ n ih =>
    rw [settle, denials]
    by_cases hs : s.safe.isEmpty = true
    · rw [if_pos hs, if_pos hs]
      exact ⟨.empty, foldl_deny_with _ s .empty⟩
    · rw [if_neg hs, if_neg hs]
      obtain ⟨denied, hd⟩ := ih s.settleSafe
      refine ⟨denied, ?_⟩
      rw [hd, List.foldl_append, settleSafe, foldl_deny_with]

/-- A settlement is a number of denials, one after the other. -/
theorem granted_settle (n : Nat) (s : RoleResolution) :
    (s.settle n).granted = ((s.denials n).foldl deny s).granted := by
  obtain ⟨denied, hd⟩ := settle_eq n s
  rw [hd]

/-- Only granted roles are marked as denied. -/
def Bounded (s : RoleResolution) : Prop := ∀ r ∈ s.denied, r ∈ s.granted

/-- Every granted role that the graph shows as denied is marked. -/
def Marked (s : RoleResolution) : Prop :=
  ∀ r ∈ s.granted, ∀ d ∈ (s.graph.edges r).deniedByRoles, r ∈ s.denied

variable {r : String} {n : Nat}

theorem mem_safe : r ∈ s.safe ↔
    r ∈ s.denied ∧ ∃ d ∈ (s.graph.edges r).deniedByRoles, s.graph.Supports (· ∈ s.denied) d := by
  rw [safe, List.mem_filter, NameSet.mem_toList, RoleGraph.canSafelyDeny_iff]

theorem mem_denied_settleSafe : r ∈ s.settleSafe.denied ↔
    r ∈ s.settleSafe.granted ∧ ∃ d, d ∈ (s.settleSafe.graph.edges r).deniedByRoles :=
  RoleGraph.mem_deniedRoles

theorem bounded_settleSafe : s.settleSafe.Bounded := fun _ hr => (mem_denied_settleSafe.mp hr).1

theorem marked_settleSafe : s.settleSafe.Marked := fun _ hr d hd =>
  mem_denied_settleSafe.mpr ⟨hr, d, hd⟩

/-- A round of safe denials marks no role that was not marked. -/
theorem Marked.denied_settleSafe (hm : s.Marked) (hr : r ∈ s.settleSafe.denied) : r ∈ s.denied := by
  obtain ⟨hg, d, hd⟩ := mem_denied_settleSafe.mp hr
  exact hm r (mem_granted_of_foldl_deny hg).1 d (mem_deniedByRoles_of_foldl_deny hd)

theorem Settling.settleSafe (h : Settling policies presented s) :
    Settling policies presented s.settleSafe :=
  let k := h.foldl_deny s.safe
  ⟨k.sound, k.nodes, k.grants, k.denies, k.parents, k.deniers⟩

private theorem size_deny_le (s : RoleResolution) (x : String) :
    (s.deny x).granted.size ≤ s.granted.size :=
  Dict.size_filter_le ..

private theorem size_foldl_deny_le (roles : List String) (s : RoleResolution) :
    (roles.foldl deny s).granted.size ≤ s.granted.size := by
  induction roles generalizing s with
  | nil => exact Nat.le_refl _
  | cons x roles ih => exact (ih (s.deny x)).trans (size_deny_le s x)

theorem size_settleSafe_lt (hb : s.Bounded) (hs : ¬ s.safe.isEmpty = true) :
    s.settleSafe.granted.size < s.granted.size := by
  rw [settleSafe]
  cases hl : s.safe with
  | nil => exact absurd (by rw [hl]; rfl) hs
  | cons x roles =>
    have hx : x ∈ s.granted := hb x (mem_safe.mp (hl ▸ List.mem_cons_self)).1
    have hlt : (s.deny x).granted.size < s.granted.size :=
      Dict.size_filter_lt hx fun h => (mem_granted_of_deny h).2 rfl
    exact Nat.lt_of_le_of_lt (size_foldl_deny_le roles (s.deny x)) hlt

/-- With a round for each granted role a settlement only ends when no denial is safe any more. -/
theorem settle_eq_settleRest (hb : s.Bounded) (hn : s.granted.size < n) :
    (s.saturate n).safe.isEmpty = true ∧ s.settle n = (s.saturate n).settleRest := by
  induction n generalizing s with
  | zero => exact absurd hn (Nat.not_lt_zero _)
  | succ n ih =>
    rw [settle, saturate]
    by_cases hs : s.safe.isEmpty = true
    · rw [if_pos hs, if_pos hs]
      exact ⟨hs, rfl⟩
    · rw [if_neg hs, if_neg hs]
      have := size_settleSafe_lt hb hs
      exact ih bounded_settleSafe (by omega)

/-- The roles that a settlement denies are marked from the beginning. -/
theorem Marked.denials (hm : s.Marked) (hr : r ∈ s.denials n) : r ∈ s.denied := by
  induction n generalizing s with
  | zero => exact absurd hr List.not_mem_nil
  | succ n ih =>
    rw [RoleResolution.denials] at hr
    split at hr
    · exact NameSet.mem_toList.mp hr
    · rcases List.mem_append.mp hr with hr | hr
      · exact (mem_safe.mp hr).1
      · exact hm.denied_settleSafe (ih marked_settleSafe hr)

/-- A role that is supported without any marked role stays. -/
theorem Settling.survives (h : Settling policies presented s) (hm : s.Marked)
    (hs : s.graph.Supports (· ∈ s.denied) r) : r ∈ (s.settle n).granted := by
  rw [granted_settle, ← (h.foldl_deny _).nodes]
  exact (supports_foldl_deny (fun _ => hm.denials) hs).mem_nodes

/-- A denial in a safe round is by a role that stays. -/
theorem Settling.denier_survives (h : Settling policies presented s) (hm : s.Marked)
    (hr : r ∈ s.denials n) :
    r ∈ (s.saturate n).denied ∨ ∃ d ∈ (s.settle n).granted, Denies policies d r := by
  induction n generalizing s with
  | zero => exact absurd hr List.not_mem_nil
  | succ n ih =>
    rw [RoleResolution.denials] at hr
    rw [saturate, settle]
    split at hr
    · next hs => exact .inl (by rwa [if_pos hs, ← NameSet.mem_toList])
    · next hs =>
      rw [if_neg hs, if_neg hs]
      rcases List.mem_append.mp hr with hr | hr
      · obtain ⟨-, d, hd, hsup⟩ := mem_safe.mp hr
        have := h.survives (n := n + 1) hm hsup
        rw [settle, if_neg hs] at this
        exact .inr ⟨d, this, (h.deniers r d hd).2⟩
      · exact ih h.settleSafe marked_settleSafe hr

/-- Once every denial is marked, no role stays that a staying role denies. -/
theorem Settling.not_denies (h : Settling policies presented s) (hm : s.Marked) (hb : s.Bounded)
    (hn : s.granted.size < n) {d : String} (hr : r ∈ (s.settle n).granted)
    (hd : d ∈ (s.settle n).granted) : ¬ Denies policies d r := by
  induction n generalizing s with
  | zero => exact absurd hn (Nat.not_lt_zero _)
  | succ n ih =>
    rw [settle] at hr hd
    by_cases hs : s.safe.isEmpty = true
    · rw [if_pos hs, settleRest] at hr hd
      intro hden
      obtain ⟨hr, hmem⟩ := mem_granted_of_foldl_deny hr
      have hedge := h.denies r hr d (mem_granted_of_foldl_deny hd).1 hden
      exact hmem (NameSet.mem_toList.mpr (hm r hr d hedge))
    · rw [if_neg hs] at hr hd
      have := size_settleSafe_lt hb hs
      exact ih h.settleSafe marked_settleSafe bounded_settleSafe (by omega) hr hd

/-- Nothing but granted roles is left to deny when no denial is safe any more. -/
theorem Settling.saturate (h : Settling policies presented s) (hb : s.Bounded) :
    Settling policies presented (s.saturate n) ∧ (s.saturate n).Bounded := by
  induction n generalizing s with
  | zero => exact ⟨h, hb⟩
  | succ n ih =>
    rw [RoleResolution.saturate]
    split
    · exact ⟨h, hb⟩
    · exact ih h.settleSafe bounded_settleSafe

end Run

section Circle
variable {x : String}

private theorem exists_first {step : String → String → Prop}
    (hstep : ∀ r, ¬ Relation.TransGen step r r) {marked : NameSet} (hx : x ∈ marked) :
    ∃ r ∈ marked, ∀ y ∈ marked, ¬ Relation.TransGen step y r := by
  let before (a b : { r // r ∈ marked.toList.toFinset }) : Prop := Relation.TransGen step a b
  have : IsTrans _ before := ⟨fun _ _ _ => Relation.TransGen.trans⟩
  have : Std.Irrefl before := ⟨fun a => hstep a⟩
  obtain ⟨⟨r, hr⟩, -, hmin⟩ := (Finite.wellFounded_of_trans_of_irrefl before).has_min Set.univ
    ⟨⟨x, by simpa using hx⟩, trivial⟩
  refine ⟨r, by simpa using hr, fun y hy => ?_⟩
  exact hmin ⟨y, by simpa using hy⟩ trivial

/-- Without circles among the policies, denials are taken to be in a circle only because the deniers of
some role are lost, or left without support. -/
theorem Settling.exists_dead (h : Settling policies presented s) (hb : s.Bounded)
    (hs : s.safe.isEmpty = true) (acyclic : Acyclic policies presented) (hx : x ∈ s.denied) :
    ∃ r ∈ s.denied, ∀ d ∈ (s.graph.edges r).deniedByRoles,
      ¬ s.graph.Supports (fun _ => False) d := by
  obtain ⟨r, hr, hfirst⟩ := exists_first acyclic hx
  refine ⟨r, hr, fun d hd hsup => ?_⟩
  have hgranted : Granted policies presented r := h.sound r (hb r hr)
  -- no role on the way from a denier back to the subject is marked, as nothing marked leads to `r`
  have key {y : String} (hy : s.graph.Supports (fun _ => False) y)
      (hlead : Relation.TransGen (fun a b => Granted policies presented a ∧
        Granted policies presented b ∧ Leads policies a b) y r) :
      s.graph.Supports (· ∈ s.denied) y := by
    induction hy with
    | root hn _ hq => exact .root hn (fun hm => hfirst _ hm hlead) hq
    | step hn _ hp _ ih =>
      obtain ⟨hg, p, hmem, -, hnames, hlist⟩ := h.parents _ _ hp
      have hy := h.sound _ ((h.nodes _).mp hn)
      exact .step hn (fun hm => hfirst _ hm hlead) hp
        (ih (.head ⟨hg, hy, p, hmem, hnames, hlist⟩ hlead))
  obtain ⟨hg, p, hmem, -, hnames, hlist⟩ := h.deniers r d hd
  have hsafe : r ∈ s.safe :=
    mem_safe.mpr ⟨hr, d, hd, key hsup (.single ⟨hg, hgranted, p, hmem, hnames, hlist⟩)⟩
  rw [List.isEmpty_iff.mp hs] at hsafe
  exact List.not_mem_nil hsafe

end Circle

end Turnstile.RoleResolution

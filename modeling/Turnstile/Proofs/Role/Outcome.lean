import Turnstile.Proofs.Role.Settlement

/-! The roles that a resolution returns, in terms of the policies: never more than grants spread to, and
less only where roles deny roles. The names of roles that are lost without being denied stay in the
graph as edges, and so does a denier that is filed as a root; the results say how far support, cause
and denial hold nevertheless. -/
namespace Turnstile
open RoleResolution
variable {policies : List RolePolicy} {presented : List String}

namespace RoleResolution
variable {s : RoleResolution}

theorem Collected.bounded (h : Collected policies presented s) : s.Bounded := fun r hr =>
  ((h.denied r).mp hr).1

/-- Without stray denials every denial is marked at once. -/
theorem Collected.marked (h : Collected policies presented s)
    (hs : ∀ p ∈ policies, p.effect = .deny → ¬ p.IsStray presented) : s.Marked := by
  intro r hr d hd
  obtain ⟨hg, p, hp, he, hn, hm⟩ := h.settling.deniers r d hd
  exact (h.denied r).mpr ⟨hr, p, hp, he, hs p hp he, ⟨d, (h.granted d).mpr hg, hn⟩, hm⟩

theorem Collected.chain (h : Collected policies presented s) {r : String} (hr : r ∈ s.granted) :
    Chain policies presented (· ∈ s.granted) r :=
  ((h.granted r).mp hr).chain.mono fun y hy => (h.granted y).mpr hy

/-- A chain that avoids a denied role consists of roles that the denial leaves. -/
theorem Settling.chain_deny (h : Settling policies presented s) {x r : String}
    (hc : Chain policies presented (fun y => y ∈ s.granted ∧ y ≠ x) r) :
    Chain policies presented (· ∈ (s.deny x).granted) r := by
  induction hc with
  | direct hp he hd hr => exact .direct hp he hd hr
  | through hp he hn hs hc hr ih => exact .through hp he hn (h.stays hs.1 hs.2 hc) ih hr

theorem Settling.chain_foldl_deny_iff (h : Settling policies presented s) {roles : List String}
    {r : String} (hc : Chain policies presented (· ∈ s.granted) r) :
    Chain policies presented (· ∈ (roles.foldl RoleResolution.deny s).granted) r ↔
      ∀ before x after, roles = before ++ x :: after → Chain policies presented
        (fun y => y ∈ (before.foldl RoleResolution.deny s).granted ∧ y ≠ x) r := by
  constructor
  · rintro hc before x after rfl
    refine hc.mono fun y hy => ?_
    rw [List.foldl_append] at hy
    obtain ⟨hy, hm⟩ := mem_granted_of_foldl_deny hy
    exact ⟨hy, fun hx => hm (hx ▸ List.mem_cons_self)⟩
  · intro hall
    rcases List.eq_nil_or_concat roles with rfl | ⟨before, x, rfl⟩
    · exact hc
    · rw [List.concat_eq_append] at hall ⊢
      rw [List.foldl_append]
      exact (h.foldl_deny before).chain_deny (hall before x [] rfl)

end RoleResolution

variable {τ : Type} {source : RoleSource (StateM τ)}

/-- The denials of a resolution, in the order in which they take effect. -/
def RoleSource.denials (source : RoleSource (StateM τ)) (presented : List String) (t : τ) :
    List String :=
  let s := (source.gather presented t).1
  s.denials (s.granted.size + 1)

/-- The state of a resolution after some denials. -/
def RoleSource.after (source : RoleSource (StateM τ)) (presented : List String) (t : τ)
    (roles : List String) : RoleResolution :=
  roles.foldl deny (source.gather presented t).1

/-- The denials of a resolution leave the roles that it returns. -/
private theorem resolve_eq_after (source : RoleSource (StateM τ)) (presented : List String) (t : τ) :
    (source.resolve presented t).1 =
      (source.after presented t (source.denials presented t)).granted :=
  granted_settle _ _

/-- A role that is returned has a chain of grants among the returned roles exactly when, at each
denial, it had one among the roles of that time that avoids the denied role. -/
theorem chain_resolve_iff (distinct : (policies.map (·.id)).Nodup) (serves : source.Serves policies)
    (presented : List String) (t : τ) :
    (∀ role ∈ (source.resolve presented t).1,
      Chain policies presented (· ∈ (source.resolve presented t).1) role ↔
        ∀ before x after, source.denials presented t = before ++ x :: after →
          Chain policies presented
            (fun y => y ∈ (source.after presented t before).granted ∧ y ≠ x) role) ∧
    (∀ before x after, source.denials presented t = before ++ x :: after →
      ∀ role ∈ (source.after presented t before).granted, role ≠ x →
        Chain policies presented
          (fun y => y ∈ (source.after presented t before).granted ∧ y ≠ x) role →
        role ∈ (source.after presented t (before ++ [x])).granted) := by
  have h := collected_gather distinct serves presented t
  rw [resolve_eq_after]
  refine ⟨fun role hrole => ?_, fun before x after _ role hrole hx hc => ?_⟩
  · exact h.settling.chain_foldl_deny_iff (h.chain (mem_granted_of_foldl_deny hrole).1)
  · rw [RoleSource.after, List.foldl_append]
    exact (h.settling.foldl_deny before).stays hrole hx hc

/-- A diamond of grants below a role that is denied, and a role that the diamond grants. -/
def diamond : List RolePolicy :=
  [{ id := "1", effect := .grant, roles := ["d", "r"], principals := ["user:bill"] },
    { id := "2", effect := .grant, roles := ["a", "b"], principals := ["role:r"] },
    { id := "3", effect := .grant, roles := ["a"], principals := ["role:b"] },
    { id := "4", effect := .grant, roles := ["c"], principals := ["role:a"] },
    { id := "5", effect := .deny, roles := ["r"], principals := ["role:d"] }]

private theorem mem_resolve_diamond {r : String} :
    r ∈ ((RoleSource.ofList diamond).resolve ["user:bill"] ()).1 ↔ r = "c" ∨ r = "d" := by
  have hresult : ((RoleSource.ofList diamond).resolve ["user:bill"] ()).1.toList = ["c", "d"] := by
    decide +kernel
  rw [← NameSet.mem_toList, hresult]
  simp

/-- A role that the subject is granted as such has its chain after each denial. -/
theorem chain_resolve_diamond : (diamond.map (·.id)).Nodup ∧
    (RoleSource.ofList diamond).Serves diamond ∧
    "d" ∈ ((RoleSource.ofList diamond).resolve ["user:bill"] ()).1 ∧
    Chain diamond ["user:bill"]
      (· ∈ ((RoleSource.ofList diamond).resolve ["user:bill"] ()).1) "d" := by
  have hd := mem_resolve_diamond.mpr (.inr rfl)
  have hiff := (chain_resolve_iff (by decide) (RoleSource.ofList_serves diamond) ["user:bill"] ()).1
  refine ⟨by decide, RoleSource.ofList_serves _, hd, (hiff "d" hd).mpr fun before x after _ => ?_⟩
  exact .direct List.mem_cons_self rfl (by decide) (by decide)

/-- The diamond goes with the denied role, but the role that it grants is left without a chain. -/
theorem chain_not_resolve_diamond : (diamond.map (·.id)).Nodup ∧
    (RoleSource.ofList diamond).Serves diamond ∧
    "c" ∈ ((RoleSource.ofList diamond).resolve ["user:bill"] ()).1 ∧
    ¬ Chain diamond ["user:bill"]
      (· ∈ ((RoleSource.ofList diamond).resolve ["user:bill"] ()).1) "c" := by
  refine ⟨by decide, RoleSource.ofList_serves _, mem_resolve_diamond.mpr (.inl rfl), fun hc => ?_⟩
  have hgrant : ∀ p ∈ diamond, "c" ∈ p.roles → ¬ p.IsDirect ["user:bill"] ∧
      ∀ x ∈ p.principals.filterMap Role.ofPrincipal?, x = "a" := by decide
  cases hc with
  | direct hp _ hd hr => exact (hgrant _ hp hr).1 hd
  | through hp _ hn hs _ hr =>
    rw [mem_resolve_diamond, (hgrant _ hp hr).2 _ (RolePolicy.names_iff.mp hn)] at hs
    simp at hs

/-- The state of a resolution in which no denial is safe any more. -/
def RoleSource.saturated (source : RoleSource (StateM τ)) (presented : List String) (t : τ) :
    RoleResolution :=
  let s := (source.gather presented t).1
  s.saturate (s.granted.size + 1)

/-- A role that a settlement denies is denied in the first round, or in a circle at the end, or by a
role that stays. -/
private theorem denied_cases {s : RoleResolution} (h : Settling policies presented s) {n : Nat}
    {r : String} (hr : r ∈ s.denials (n + 1)) : (r ∈ s.safe ∨ r ∈ (s.saturate (n + 1)).denied) ∨
      ∃ d ∈ (s.settle (n + 1)).granted, Denies policies d r := by
  rw [denials] at hr
  rw [saturate, settle]
  by_cases hs : s.safe.isEmpty = true
  · rw [if_pos hs] at hr ⊢
    exact .inl (.inr (NameSet.mem_toList.mp hr))
  · rw [if_neg hs] at hr ⊢
    rw [if_neg hs]
    rcases List.mem_append.mp hr with hr | hr
    · exact .inl (.inl hr)
    · exact (h.settleSafe.denier_survives marked_settleSafe hr).imp_left .inr

private theorem denied_missing {s : RoleResolution} (h : Settling policies presented s)
    (hb : s.Bounded) {n : Nat} (hn : s.granted.size < n + 1) {r : String}
    (hr : r ∈ s.safe ∨ r ∈ (s.saturate (n + 1)).denied) :
    Granted policies presented r ∧ r ∉ (s.settle (n + 1)).granted := by
  rcases hr with hr | hr
  · refine ⟨h.sound r (hb r (mem_safe.mp hr).1), fun hm => ?_⟩
    have hs : ¬ s.safe.isEmpty = true := fun hs => by simp [List.isEmpty_iff.mp hs] at hr
    rw [granted_settle, denials, if_neg hs] at hm
    exact (mem_granted_of_foldl_deny hm).2 (List.mem_append_left _ hr)
  · obtain ⟨hrest, hb'⟩ := h.saturate (n := n + 1) hb
    refine ⟨hrest.sound r (hb' r hr), fun hm => ?_⟩
    rw [(settle_eq_settleRest hb hn).2, settleRest] at hm
    exact (mem_granted_of_foldl_deny hm).2 (NameSet.mem_toList.mpr hr)

/-- A granted role is missing without cause only if the first round of safe denials or the denials in
a circle at the end deny it. The first round is right unless a stray policy denies, and without
circles among the policies, all deniers of some role are lost or without support when denials are
taken to be in a circle. -/
theorem justified_resolve_iff (distinct : (policies.map (·.id)).Nodup) (serves : source.Serves policies)
    (presented : List String) (t : τ) :
    let result := (source.resolve presented t).1
    let first := (source.gather presented t).1.safe
    let rest := source.saturated presented t
    ((∀ role, Granted policies presented role → role ∉ result →
        Justified policies presented (· ∈ result) role) ↔
      ∀ role, role ∈ first ∨ role ∈ rest.denied →
        Justified policies presented (· ∈ result) role) ∧
    ((∀ p ∈ policies, p.effect = .deny → ¬ p.IsStray presented) →
      ∀ role ∈ first, Justified policies presented (· ∈ result) role) ∧
    (Acyclic policies presented → ∀ x ∈ rest.denied, ∃ role ∈ rest.denied,
      ∀ d ∈ (rest.graph.edges role).deniedByRoles, ¬ rest.graph.Supports (fun _ => False) d) := by
  have h := collected_gather distinct serves presented t
  have hb := h.bounded
  have hn := Nat.lt_succ_self (source.gather presented t).1.granted.size
  refine ⟨⟨fun hall role hrole => ?_, fun hall role hg hmissing => ?_⟩, fun hs role hrole => ?_,
    fun acyclic x hx => ?_⟩
  · obtain ⟨hg, hmissing⟩ := denied_missing h.settling hb hn hrole
    exact hall role hg hmissing
  · rw [resolve_eq_after] at hmissing
    rcases h.settling.dropped ((h.granted role).mpr hg) hmissing with hm | hm
    · rcases denied_cases h.settling hm with hm | hm
      · exact hall role hm
      · exact .inl hm
    · refine .inr ?_
      rw [resolve_eq_after]
      exact hm
  · obtain ⟨-, d, hd, hsup⟩ := mem_safe.mp hrole
    exact .inl ⟨d, h.settling.survives (h.marked hs) hsup, (h.settling.deniers role d hd).2⟩
  · obtain ⟨hrest, hb'⟩ := h.settling.saturate hb
    exact hrest.exists_dead hb' (settle_eq_settleRest hb hn).1 acyclic hx

/-- A role that denies another one. -/
def pair : List RolePolicy :=
  [{ id := "1", effect := .grant, roles := ["d", "r"], principals := ["user:bill"] },
    { id := "2", effect := .deny, roles := ["r"], principals := ["role:d"] }]

private theorem denied_saturated_pair {r : String} :
    r ∉ ((RoleSource.ofList pair).saturated ["user:bill"] ()).denied := by
  have hrest : ((RoleSource.ofList pair).saturated ["user:bill"] ()).denied = .empty := by
    decide +kernel
  rw [hrest]
  exact Dict.not_mem_empty r

theorem justified_resolve_pair : (pair.map (·.id)).Nodup ∧ (RoleSource.ofList pair).Serves pair ∧
    ∀ role, Granted pair ["user:bill"] role →
      role ∉ ((RoleSource.ofList pair).resolve ["user:bill"] ()).1 →
      Justified pair ["user:bill"]
        (· ∈ ((RoleSource.ofList pair).resolve ["user:bill"] ()).1) role := by
  obtain ⟨hiff, hfirst, -⟩ :=
    justified_resolve_iff (by decide) (RoleSource.ofList_serves pair) ["user:bill"] ()
  refine ⟨by decide, RoleSource.ofList_serves _, hiff.mpr fun role hrole => ?_⟩
  rcases hrole with hrole | hrole
  · exact hfirst (by decide) role hrole
  · exact absurd hrole denied_saturated_pair

/-- A diamond of grants below a role that is denied, and a denial by the role at its end. -/
def diamondDenier : List RolePolicy :=
  [{ id := "1", effect := .grant, roles := ["d", "r", "y"], principals := ["user:bill"] },
    { id := "2", effect := .grant, roles := ["a", "b"], principals := ["role:r"] },
    { id := "3", effect := .grant, roles := ["a"], principals := ["role:b"] },
    { id := "4", effect := .deny, roles := ["y"], principals := ["role:a"] },
    { id := "5", effect := .deny, roles := ["r"], principals := ["role:d"] }]

/-- The denial by a role that is lost takes effect, although nothing is in a circle. -/
theorem not_justified_resolve_diamondDenier : (diamondDenier.map (·.id)).Nodup ∧
    (RoleSource.ofList diamondDenier).Serves diamondDenier ∧
    Acyclic diamondDenier ["user:bill"] ∧ Granted diamondDenier ["user:bill"] "y" ∧
    "y" ∉ ((RoleSource.ofList diamondDenier).resolve ["user:bill"] ()).1 ∧
    ¬ Justified diamondDenier ["user:bill"]
      (· ∈ ((RoleSource.ofList diamondDenier).resolve ["user:bill"] ()).1) "y" := by
  have hresult : ((RoleSource.ofList diamondDenier).resolve ["user:bill"] ()).1.toList = ["d"] := by
    decide +kernel
  have hmem (r : String) :
      r ∈ ((RoleSource.ofList diamondDenier).resolve ["user:bill"] ()).1 ↔ r = "d" := by
    rw [← NameSet.mem_toList, hresult, List.mem_singleton]
  have hgrant : "y" ∈ diamondDenier.head!.roles := by decide
  refine ⟨by decide, RoleSource.ofList_serves _, ?_, ?_, by rw [hmem]; decide, ?_⟩
  · exact acyclic_of_rank (["d", "r", "b", "a", "y"].idxOf ·) (by decide)
  · exact .direct List.mem_cons_self rfl (by decide) hgrant (by decide)
  · rintro (⟨d, hd, p, hp, he, hn, hr⟩ | hc)
    · rw [hmem] at hd
      subst hd
      have hother : ∀ p ∈ diamondDenier, p.effect = .deny → "y" ∈ p.roles →
          ¬ p.Names "d" := by decide
      exact hother p hp he hr hn
    · exact hc (.direct List.mem_cons_self rfl (by decide) hgrant)

/-- When no denial is safe in the first round, the denials in a circle are all there are. -/
private theorem resolve_of_safe_eq_nil {presented : List String} {t : τ}
    (hs : (source.gather presented t).1.safe = []) : (source.resolve presented t).1 =
      (source.after presented t (source.gather presented t).1.denied.toList).granted := by
  have hdenials : source.denials presented t = (source.gather presented t).1.denied.toList :=
    if_pos (List.isEmpty_iff.mpr hs)
  rw [resolve_eq_after, hdenials]

/-- After a first round of safe denials a returned role has its denials respected. -/
private theorem not_denies_of_safe_ne_nil {presented : List String} {t : τ}
    (h : Collected policies presented (source.gather presented t).1)
    (hs : (source.gather presented t).1.safe ≠ []) {d r : String}
    (hd : d ∈ (source.resolve presented t).1) (hr : r ∈ (source.resolve presented t).1) :
    ¬ Denies policies d r := by
  have hne : ¬ (source.gather presented t).1.safe.isEmpty = true :=
    fun he => hs (List.isEmpty_iff.mp he)
  have hround : (source.resolve presented t).1 = ((source.gather presented t).1.settleSafe.settle
      (source.gather presented t).1.granted.size).granted :=
    congrArg RoleResolution.granted (if_neg hne)
  rw [hround] at hr hd
  exact h.settling.settleSafe.not_denies marked_settleSafe bounded_settleSafe
    (size_settleSafe_lt h.bounded hne) hr hd

/-- A role that a returned role denies is missing exactly if some denial is safe in the first round,
or the denials in a circle lose it. Only a denial by a stray policy can fail. -/
theorem denied_not_mem_resolve_iff (distinct : (policies.map (·.id)).Nodup)
    (serves : source.Serves policies) (presented : List String) (t : τ) {p : RolePolicy}
    {d r : String} (hp : p ∈ policies) (he : p.effect = .deny) (hn : p.Names d) (hr : r ∈ p.roles)
    (hd : d ∈ (source.resolve presented t).1) :
    let collected := (source.gather presented t).1
    (r ∉ (source.resolve presented t).1 ↔
      collected.safe ≠ [] ∨ r ∉ (source.after presented t collected.denied.toList).granted) ∧
    (r ∈ (source.resolve presented t).1 → p.IsStray presented) := by
  intro collected
  have h := collected_gather distinct serves presented t
  have hmem {x : String} (hx : x ∈ (source.resolve presented t).1) : x ∈ collected.granted := by
    rw [resolve_eq_after] at hx
    exact (mem_granted_of_foldl_deny hx).1
  have hsafe (hs : collected.safe ≠ []) : r ∉ (source.resolve presented t).1 := fun hr' =>
    not_denies_of_safe_ne_nil h hs hd hr' ⟨p, hp, he, hn, hr⟩
  refine ⟨⟨fun hnot => ?_, ?_⟩, fun hr' => Classical.byContradiction fun hstray => ?_⟩
  · by_cases hs : collected.safe = []
    · exact .inr (resolve_of_safe_eq_nil hs ▸ hnot)
    · exact .inl hs
  · rintro (hs | hnot) hr'
    · exact hsafe hs hr'
    · by_cases hs : collected.safe = []
      · exact hnot (resolve_of_safe_eq_nil hs ▸ hr')
      · exact hsafe hs hr'
  · have hmarked : r ∈ collected.denied :=
      (h.denied r).mpr ⟨hmem hr', p, hp, he, hstray, ⟨d, hmem hd, hn⟩, hr⟩
    have hs : collected.safe = [] := Classical.byContradiction fun hs => hsafe hs hr'
    rw [resolve_of_safe_eq_nil hs] at hr'
    exact (mem_granted_of_foldl_deny hr').2 (NameSet.mem_toList.mpr hmarked)

theorem denied_not_mem_resolve_pair : (pair.map (·.id)).Nodup ∧
    (RoleSource.ofList pair).Serves pair ∧
    "d" ∈ ((RoleSource.ofList pair).resolve ["user:bill"] ()).1 ∧
    "r" ∉ ((RoleSource.ofList pair).resolve ["user:bill"] ()).1 := by
  have hd : "d" ∈ ((RoleSource.ofList pair).resolve ["user:bill"] ()).1 := by decide +kernel
  have hstray : ¬ (pair.getLast (by decide)).IsStray ["user:bill"] := by decide
  have hr : "r" ∈ (pair.getLast (by decide)).roles := by decide
  obtain ⟨-, h⟩ := denied_not_mem_resolve_iff (by decide) (RoleSource.ofList_serves pair)
    ["user:bill"] () (List.getLast_mem (by decide)) rfl (by decide) hr hd
  exact ⟨by decide, RoleSource.ofList_serves _, hd, fun hr => hstray (h hr)⟩

/-- A role that denies another one, by a policy that also spells out the root of policies without
principals. -/
def strayPair : List RolePolicy :=
  [{ id := "1", effect := .grant, roles := ["d", "r"], principals := ["user:bill"] },
    { id := "2", effect := .deny, roles := ["r"], principals := ["*", "role:d"] }]

/-- The denial by a stray policy takes no effect. -/
theorem denied_mem_resolve_strayPair : (strayPair.map (·.id)).Nodup ∧
    (RoleSource.ofList strayPair).Serves strayPair ∧ Denies strayPair "d" "r" ∧
    "d" ∈ ((RoleSource.ofList strayPair).resolve ["user:bill"] ()).1 ∧
    "r" ∈ ((RoleSource.ofList strayPair).resolve ["user:bill"] ()).1 :=
  ⟨by decide, RoleSource.ofList_serves _,
    ⟨_, List.mem_cons_of_mem _ List.mem_cons_self, rfl, by decide, by decide⟩,
    by decide +kernel, by decide +kernel⟩

/-- Without marked roles a settlement changes nothing. -/
private theorem granted_settle_of_unmarked {s : RoleResolution} (h : ∀ r, r ∉ s.denied) (n : Nat) :
    (s.settle n).granted = s.granted := by
  have hdenied : s.denied.toList = [] :=
    List.eq_nil_iff_forall_not_mem.mpr fun r hr => h r (NameSet.mem_toList.mp hr)
  have hsafe : s.safe.isEmpty = true := by rw [safe, hdenied, List.filter_nil, List.isEmpty_nil]
  have hdenials : s.denials n = [] := by
    cases n with
    | zero => rfl
    | succ n => rw [denials, if_pos hsafe, hdenied]
  rw [granted_settle, hdenials, List.foldl_nil]

/-- A resolution returns granted roles only, and none that is denied to the subject as such. It returns
all of them unless a policy denies something to the holders of a granted role. -/
theorem mem_resolve_granted (distinct : (policies.map (·.id)).Nodup)
    (serves : source.Serves policies) (presented : List String) (t : τ) :
    let result := (source.resolve presented t).1
    (∀ role ∈ result, Granted policies presented role ∧ ¬ DirectlyDenied policies presented role) ∧
    ((∀ x, Granted policies presented x → ∀ p ∈ policies, p.effect = .deny → ¬ p.Names x) →
      ∀ role, role ∈ result ↔ Granted policies presented role) := by
  intro result
  have h := collected_gather distinct serves presented t
  refine ⟨fun role hrole => ?_, fun hnone role => ?_⟩
  · have hrole : role ∈ (source.after presented t (source.denials presented t)).granted :=
      resolve_eq_after source presented t ▸ hrole
    have hgranted := h.settling.sound role (mem_granted_of_foldl_deny hrole).1
    exact ⟨hgranted, hgranted.not_directlyDenied⟩
  · have hunmarked (r : String) : r ∉ (source.gather presented t).1.denied := fun hr => by
      obtain ⟨-, p, hp, he, -, ⟨d, hd, hn⟩, -⟩ := (h.denied r).mp hr
      exact hnone d ((h.granted d).mp hd) p hp he hn
    have hresult : result = (source.gather presented t).1.granted :=
      granted_settle_of_unmarked hunmarked _
    rw [hresult]
    exact h.granted role

/-- Two roles that grant each other, and a third one that they would grant, were it not denied to
everybody. -/
def circle : List RolePolicy :=
  [{ id := "1", effect := .grant, roles := ["a"], principals := ["user:ann", "role:b"] },
    { id := "2", effect := .grant, roles := ["b", "c"], principals := ["role:a"] },
    { id := "3", effect := .deny, roles := ["c"] },
    { id := "4", effect := .grant, roles := ["d"], principals := ["role:c"] }]

/-- The circle is closed, and what only the denied role grants is not returned. -/
theorem mem_resolve_circle : (circle.map (·.id)).Nodup ∧ (RoleSource.ofList circle).Serves circle ∧
    (∀ role ∈ ((RoleSource.ofList circle).resolve ["user:ann"] ()).1,
      ¬ DirectlyDenied circle ["user:ann"] role) ∧
    (∀ role, role ∈ ((RoleSource.ofList circle).resolve ["user:ann"] ()).1 ↔
      Granted circle ["user:ann"] role) ∧
    ((RoleSource.ofList circle).resolve ["user:ann"] ()).1.toList = ["a", "b"] := by
  obtain ⟨hsound, hcomplete⟩ :=
    mem_resolve_granted (by decide) (RoleSource.ofList_serves circle) ["user:ann"] ()
  have hnone : ∀ p ∈ circle, p.effect = .deny → p.principals.filterMap Role.ofPrincipal? = [] := by
    decide
  refine ⟨by decide, RoleSource.ofList_serves _, fun role hrole => (hsound role hrole).2,
    hcomplete fun x _ p hp he hn => ?_, by decide +kernel⟩
  rw [RolePolicy.names_iff, hnone p hp he] at hn
  exact List.not_mem_nil hn

end Turnstile

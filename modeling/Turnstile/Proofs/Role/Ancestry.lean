import Mathlib.Data.List.Chain
import Turnstile.Proofs.Role.Search

/-! Ways up the grants of a role. The search up from a role answers for the path that it carries: it finds the ways
that come back neither to that path nor to themselves. From an empty path these are enough, as a role with a way up
has one that passes no role twice. -/
namespace Turnstile.RoleGraph

/-- A way from a role up to one that a principal grants. Each role on it but the last is granted by the next one,
and none is missing or to be avoided. -/
structure IsWayUp (g : RoleGraph) (avoided : String → Prop) (role : String) (way : List String) : Prop where
  start : way.head? = some role
  grants : way.IsChain fun r p => p ∈ (g.edges r).parentRoles
  visits : ∀ r ∈ way, r ∈ g.nodes ∧ ¬ avoided r
  root : ∃ r ∈ way.getLast?, ∃ q, q ∈ (g.edges r).parentPrincipals

variable {g : RoleGraph} {avoided avoided' : String → Prop} {denied denied' path : NameSet} {role r : String}
  {way : List String}

theorem not_isWayUp_nil : ¬ g.IsWayUp avoided role [] := fun h => nomatch h.start

/-- A way ends at a role that a principal grants or goes on from a role that grants this one. -/
theorem isWayUp_cons_iff : g.IsWayUp avoided role (r :: way) ↔
    r = role ∧ role ∈ g.nodes ∧ ¬ avoided role ∧
      (way = [] ∧ (∃ q, q ∈ (g.edges role).parentPrincipals) ∨
        ∃ p ∈ (g.edges role).parentRoles, g.IsWayUp avoided p way) := by
  constructor
  · rintro ⟨hstart, hgrants, hvisits, hroot⟩
    obtain rfl := Option.some.inj hstart
    obtain ⟨hn, ha⟩ := hvisits r List.mem_cons_self
    refine ⟨rfl, hn, ha, ?_⟩
    cases way with
    | nil =>
      obtain ⟨x, hx, hq⟩ := hroot
      obtain rfl := Option.some.inj hx
      exact .inl ⟨rfl, hq⟩
    | cons p way =>
      obtain ⟨hp, hrest⟩ := List.isChain_cons_cons.mp hgrants
      rw [List.getLast?_cons_cons] at hroot
      exact .inr ⟨p, hp, rfl, hrest, fun x hx => hvisits x (List.mem_cons_of_mem r hx), hroot⟩
  · rintro ⟨rfl, hn, ha, ⟨rfl, hq⟩ | ⟨p, hp, hway⟩⟩
    · refine ⟨rfl, List.isChain_singleton r, fun x hx => ?_, r, rfl, hq⟩
      obtain rfl := List.mem_singleton.mp hx
      exact ⟨hn, ha⟩
    · cases way with
      | nil => exact absurd hway not_isWayUp_nil
      | cons p' way =>
        obtain rfl := Option.some.inj hway.start
        refine ⟨rfl, List.isChain_cons_cons.mpr ⟨hp, hway.grants⟩, fun x hx => ?_, ?_⟩
        · rcases List.mem_cons.mp hx with rfl | hx
          · exact ⟨hn, ha⟩
          · exact hway.visits x hx
        · rw [List.getLast?_cons_cons]
          exact hway.root

/-- Who avoids more roles has fewer ways. -/
theorem IsWayUp.mono (h : g.IsWayUp avoided role way) (hless : ∀ r, avoided' r → avoided r) :
    g.IsWayUp avoided' role way :=
  ⟨h.start, h.grants, fun r hr => ⟨(h.visits r hr).1, fun ha => (h.visits r hr).2 (hless r ha)⟩, h.root⟩

/-- The roles that are supported are those with a way up. -/
theorem supports_iff_exists_isWayUp : g.Supports avoided role ↔ ∃ way, g.IsWayUp avoided role way := by
  constructor
  · intro h
    induction h with
    | root hn ha hq => exact ⟨_, isWayUp_cons_iff.mpr ⟨rfl, hn, ha, .inl ⟨rfl, _, hq⟩⟩⟩
    | step hn ha hp _ ih =>
      obtain ⟨way, hway⟩ := ih
      exact ⟨_, isWayUp_cons_iff.mpr ⟨rfl, hn, ha, .inr ⟨_, hp, hway⟩⟩⟩
  · rintro ⟨way, hway⟩
    induction way generalizing role with
    | nil => exact absurd hway not_isWayUp_nil
    | cons r way ih =>
      obtain ⟨-, hn, ha, ⟨-, q, hq⟩ | ⟨p, hp, hway⟩⟩ := isWayUp_cons_iff.mp hway
      · exact .root hn ha hq
      · exact .step hn ha hp (ih hway)

/-- A way that the search can find: it passes no role twice, and goes through no role of the path that the search
carries. It may end at one, as the principals of a role are looked at before the path is. -/
structure IsFreshWayUp (g : RoleGraph) (denied path : NameSet) (role : String) (way : List String) : Prop
    extends g.IsWayUp (· ∈ denied) role way where
  nodup : way.Nodup
  fresh : ∀ r ∈ way.dropLast, r ∉ path

theorem exists_isFreshWayUp_of_deniedUpwards {path : NameSet} {role : String}
    (h : g.deniedUpwards denied path role = false) : ∃ way, g.IsFreshWayUp denied path role way := by
  obtain ⟨hn, hd, hup⟩ := deniedUpwards_eq_false_iff.mp h
  by_cases hq : ∃ q, q ∈ (g.edges role).parentPrincipals
  · exact ⟨[role], isWayUp_cons_iff.mpr ⟨rfl, hn, hd, .inl ⟨rfl, hq⟩⟩, List.nodup_singleton role,
      fun _ hx => nomatch hx⟩
  · obtain ⟨hrole, p, hp, hup⟩ := hup.resolve_left hq
    obtain ⟨way, hway⟩ := exists_isFreshWayUp_of_deniedUpwards hup
    obtain ⟨last, hlast, hroot⟩ := hway.root
    have hne : way ≠ [] := List.ne_nil_of_mem (List.mem_of_getLast? hlast)
    have hsplit : way.dropLast ++ [last] = way := List.dropLast_append_getLast? last hlast
    refine ⟨role :: way, isWayUp_cons_iff.mpr ⟨rfl, hn, hd, .inr ⟨p, hp, hway.toIsWayUp⟩⟩,
      List.nodup_cons.mpr ⟨fun hmem => ?_, hway.nodup⟩, fun x hx => ?_⟩
    · -- The way above keeps off the path, which the role is on; and it does not end at the role, which no principal
      -- grants.
      rw [← hsplit, List.mem_append, List.mem_singleton] at hmem
      rcases hmem with hmem | rfl
      · exact hway.fresh role hmem (NameSet.mem_add.mpr (.inl rfl))
      · exact hq hroot
    · rw [List.dropLast_cons_of_ne_nil hne] at hx
      rcases List.mem_cons.mp hx with rfl | hx
      · exact hrole
      · exact fun hpath => hway.fresh x hx (NameSet.mem_add.mpr (.inr hpath))
termination_by g.unvisited path
decreasing_by exact unvisited_add_lt hn hrole

theorem deniedUpwards_of_isFreshWayUp (h : g.IsFreshWayUp denied path role way) :
    g.deniedUpwards denied path role = false := by
  induction way generalizing path role with
  | nil => exact absurd h.toIsWayUp not_isWayUp_nil
  | cons r way ih =>
    obtain ⟨rfl, hn, hd, ⟨-, hq⟩ | ⟨p, hp, hway⟩⟩ := isWayUp_cons_iff.mp h.toIsWayUp
    · exact deniedUpwards_eq_false_iff.mpr ⟨hn, hd, .inl hq⟩
    · have hne : way ≠ [] := fun hnil => not_isWayUp_nil (hnil ▸ hway)
      obtain ⟨hnew, hnodup⟩ := List.nodup_cons.mp h.nodup
      have hfresh := h.fresh
      rw [List.dropLast_cons_of_ne_nil hne] at hfresh
      refine deniedUpwards_eq_false_iff.mpr
        ⟨hn, hd, .inr ⟨hfresh r List.mem_cons_self, p, hp, ih ⟨hway, hnodup, fun x hx => ?_⟩⟩⟩
      intro hx'
      rcases NameSet.mem_add.mp hx' with rfl | hpath
      · exact hnew (List.mem_of_mem_dropLast hx)
      · exact hfresh x (List.mem_cons_of_mem r hx) hpath

/-- What the search finds from a path. -/
theorem deniedUpwards_eq_false_iff_exists : g.deniedUpwards denied path role = false ↔
    ∃ way, g.IsFreshWayUp denied path role way :=
  ⟨exists_isFreshWayUp_of_deniedUpwards, fun ⟨_, h⟩ => deniedUpwards_of_isFreshWayUp h⟩

/-- From an empty path the search finds a way whenever there is one. -/
theorem isUnsupported_eq_false_iff_exists : g.isUnsupported role denied = false ↔
    ∃ way, g.IsWayUp (· ∈ denied) role way :=
  isUnsupported_eq_false_iff.trans supports_iff_exists_isWayUp

theorem isUnsupported_mono (hmore : ∀ r ∈ denied, r ∈ denied') (h : g.isUnsupported role denied = true) :
    g.isUnsupported role denied' = true := by
  by_contra hfound
  rw [Bool.not_eq_true] at hfound
  obtain ⟨way, hway⟩ := isUnsupported_eq_false_iff_exists.mp hfound
  have hless := isUnsupported_eq_false_iff_exists.mpr ⟨way, hway.mono hmore⟩
  rw [h] at hless
  cases hless

theorem canSafelyDeny_iff_exists : g.canSafelyDeny role denied = true ↔
    ∃ d ∈ (g.edges role).deniedByRoles, ∃ way, g.IsWayUp (· ∈ denied) d way := by
  simp only [canSafelyDeny_iff, supports_iff_exists_isWayUp]

theorem canSafelyDeny_anti (hmore : ∀ r ∈ denied, r ∈ denied') (h : g.canSafelyDeny role denied' = true) :
    g.canSafelyDeny role denied = true := by
  obtain ⟨d, hd, way, hway⟩ := canSafelyDeny_iff_exists.mp h
  exact canSafelyDeny_iff_exists.mpr ⟨d, hd, way, hway.mono hmore⟩

/-- The search up from a role is a test of reachability, whatever circles the graph has and whatever roles its edges
lead to: it fails exactly when the role has no way up that avoids the denied roles. If it finds a way, there is one
that passes no role twice. A role is safely denied exactly when some role that denies it has a way up. The more
roles are denied, the fewer are found. -/
theorem search_reaches (g : RoleGraph) (role : String) (denied : NameSet) :
    g.isUnsupported role denied = g.deniedUpwards denied .empty role ∧
    (g.isUnsupported role denied = false ↔ ∃ way, g.IsWayUp (· ∈ denied) role way) ∧
    (g.isUnsupported role denied = false ↔ ∃ way, g.IsWayUp (· ∈ denied) role way ∧ way.Nodup) ∧
    (g.canSafelyDeny role denied = true ↔
      ∃ d ∈ (g.edges role).deniedByRoles, ∃ way, g.IsWayUp (· ∈ denied) d way) ∧
    ∀ denied' : NameSet, (∀ r ∈ denied, r ∈ denied') →
      (g.isUnsupported role denied = true → g.isUnsupported role denied' = true) ∧
      (g.canSafelyDeny role denied' = true → g.canSafelyDeny role denied = true) := by
  refine ⟨isUnsupported_eq_deniedUpwards g role denied, isUnsupported_eq_false_iff_exists, ?_, canSafelyDeny_iff_exists,
    fun denied' hmore => ⟨isUnsupported_mono hmore, canSafelyDeny_anti hmore⟩⟩
  constructor
  · intro h
    rw [isUnsupported_eq_deniedUpwards, deniedUpwards_eq_false_iff_exists] at h
    obtain ⟨way, hway⟩ := h
    exact ⟨way, hway.toIsWayUp, hway.nodup⟩
  · rintro ⟨way, hway, -⟩
    exact isUnsupported_eq_false_iff_exists.mpr ⟨way, hway⟩

/-- Two roles grant each other, and one of them is also granted by a role that a principal grants. They are both
granted by a role that is missing, and one of them denies a third role. -/
def carousel : RoleGraph := ⟨.ofList [
  ("a", { parentRoles := .ofList ["b", "gone"] }),
  ("b", { parentRoles := .ofList ["a", "c", "gone"] }),
  ("c", { parentPrincipals := .ofList ["user:ann"] }),
  ("r", { deniedByRoles := .ofList ["a"] })]⟩

/-- The way up from the circle leads through one role; once that is denied, the circle holds nobody. -/
theorem search_reaches_carousel :
    (∀ r ∈ NameSet.ofList ["r"], r ∈ NameSet.ofList ["c", "r"]) ∧
    carousel.isUnsupported "a" (.ofList ["r"]) = false ∧
    (∃ way, carousel.IsWayUp (· ∈ NameSet.ofList ["r"]) "a" way ∧ way.Nodup) ∧
    carousel.isUnsupported "a" (.ofList ["c", "r"]) = true ∧
    (¬ ∃ way, carousel.IsWayUp (· ∈ NameSet.ofList ["c", "r"]) "a" way) ∧
    (carousel.canSafelyDeny "r" (.ofList ["c", "r"]) = true → carousel.canSafelyDeny "r" (.ofList ["r"]) = true) := by
  have hmore : ∀ r ∈ NameSet.ofList ["r"], r ∈ NameSet.ofList ["c", "r"] := by simp
  have hfound : carousel.isUnsupported "a" (.ofList ["r"]) = false := by decide +kernel
  have hlost : carousel.isUnsupported "a" (.ofList ["c", "r"]) = true := by decide +kernel
  obtain ⟨-, hway, -⟩ := search_reaches carousel "a" (.ofList ["c", "r"])
  refine ⟨hmore, hfound, (search_reaches carousel "a" (.ofList ["r"])).2.2.1.mp hfound, hlost, fun hexists => ?_,
    ((search_reaches carousel "r" (.ofList ["r"])).2.2.2.2 _ hmore).2⟩
  rw [← hway, hlost] at hexists
  cases hexists

end Turnstile.RoleGraph

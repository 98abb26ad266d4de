import Turnstile.Evaluation.Answer

/-! Granted permissions less denied ones. Denials are taken away one by one; what is left depends on those that
apply to the resource, and not on their order. -/
namespace Turnstile

namespace Permission
variable {g p : Permission} {a resource : String} {denials granted denied : List Permission}

/-- The actions that no denial lists. -/
def left (actions : List String) (denials : List Permission) : List String :=
  actions.filter fun a => !denials.any (·.actions.contains a)

/-- What denials that all apply leave of a permission: nothing if one of them denies every action, or if no
action is left. -/
def under (g : Permission) (denials : List Permission) : Option Permission :=
  if denials = [] then some g
  else if denials.any (·.actions.isEmpty) || (left g.actions denials).isEmpty then none
  else some { g with actions := left g.actions denials }

theorem left_nil (actions : List String) : left actions [] = actions :=
  List.filter_eq_self.mpr fun _ _ => rfl

theorem left_cons (actions : List String) (d : Permission) (denials : List Permission) :
    left actions (d :: denials) = left (actions.filter fun a => !d.actions.contains a) denials := by
  rw [left, left, List.filter_filter]
  apply List.filter_congr
  intro a _
  rw [List.any_cons, Bool.not_or, Bool.and_comm]

private theorem under_cons (g d : Permission) (denials : List Permission) :
    g.under (d :: denials) =
      if d.actions.isEmpty || (g.actions.filter fun a => !d.actions.contains a).isEmpty then none
      else { g with actions := g.actions.filter fun a => !d.actions.contains a }.under denials := by
  rw [under, under, if_neg (List.cons_ne_nil _ _), left_cons, List.any_cons]
  generalize g.actions.filter (fun a => !d.actions.contains a) = rest
  cases d.actions.isEmpty with
  | true => rfl
  | false =>
    cases rest with
    | nil => simp [left]
    | cons a rest =>
      by_cases hlast : denials = []
      · simp [hlast, left_nil]
      · simp [hlast]

/-- The denials that apply count, whatever stands between them. -/
theorem foldlM_subtract (g : Permission) (denied : List Permission) :
    denied.foldlM subtract g = g.under (denied.filter fun d => d.deniesResource g.resource) := by
  induction denied generalizing g with
  | nil => rfl
  | cons d denied ih =>
    rw [List.foldlM_cons, subtract]
    by_cases hd : d.deniesResource g.resource = true
    · rw [if_pos hd, List.filter_cons, if_pos hd, under_cons]
      dsimp only
      split
      · rfl
      · exact ih { g with actions := g.actions.filter fun a => !d.actions.contains a }
    · rw [if_neg hd, List.filter_cons, if_neg hd]
      exact ih g

theorem allowsAction_iff : p.allowsAction a = true ↔ p.actions = [] ∨ a ∈ p.actions := by
  rw [allowsAction, Bool.or_eq_true, List.isEmpty_iff, List.contains_iff_mem]

theorem mem_left {actions : List String} :
    a ∈ left actions denials ↔ a ∈ actions ∧ ∀ d ∈ denials, a ∉ d.actions := by
  simp [left]

/-- What is left of a permission was granted, and no denial takes it away. -/
theorem of_under (h : g.under denials = some p) : p.resource = g.resource ∧
    ∀ a, p.allowsAction a = true → g.allowsAction a = true ∧ ∀ d ∈ denials, d.allowsAction a = false := by
  rw [under] at h
  split at h
  · next hnone =>
    obtain rfl := Option.some.inj h
    rw [hnone]
    exact ⟨rfl, fun a ha => ⟨ha, fun d hd => nomatch hd⟩⟩
  · split at h
    · cases h
    · next hrest =>
      obtain rfl := Option.some.inj h
      rw [Bool.or_eq_true, not_or, List.any_eq_true] at hrest
      obtain ⟨hall, hleft⟩ := hrest
      refine ⟨rfl, fun a ha => ?_⟩
      rcases allowsAction_iff.mp ha with hnone | ha
      · exact absurd (List.isEmpty_iff.mpr hnone) hleft
      · obtain ⟨hgranted, hdenied⟩ := mem_left.mp ha
        refine ⟨allowsAction_iff.mpr (.inr hgranted), fun d hd => ?_⟩
        rw [← Bool.not_eq_true, allowsAction_iff]
        rintro (hevery | hlisted)
        · exact hall ⟨d, hd, List.isEmpty_iff.mpr hevery⟩
        · exact hdenied d hd hlisted

/-- An action that is listed and not denied is left. -/
theorem exists_under (ha : a ∈ g.actions) (h : ∀ d ∈ denials, d.allowsAction a = false) :
    ∃ p, g.under denials = some p ∧ p.resource = g.resource ∧ a ∈ p.actions := by
  have hdenied (d : Permission) (hd : d ∈ denials) : d.actions ≠ [] ∧ a ∉ d.actions := by
    have hallowed := h d hd
    rw [← Bool.not_eq_true, allowsAction_iff, not_or] at hallowed
    exact hallowed
  have hleft : a ∈ left g.actions denials := mem_left.mpr ⟨ha, fun d hd => (hdenied d hd).2⟩
  rw [under]
  split
  · exact ⟨g, rfl, rfl, ha⟩
  · rw [if_neg]
    · exact ⟨_, rfl, rfl, hleft⟩
    · rw [Bool.or_eq_true, not_or, List.any_eq_true, List.isEmpty_iff]
      refine ⟨?_, List.ne_nil_of_mem hleft⟩
      rintro ⟨d, hd, hnone⟩
      exact (hdenied d hd).1 (List.isEmpty_iff.mp hnone)

theorem mem_subtractAll : p ∈ subtractAll granted denied ↔
    ∃ g ∈ granted, g.under (denied.filter fun d => d.deniesResource g.resource) = some p := by
  simp only [subtractAll, List.mem_filterMap, foldlM_subtract]

/-- A permission covers the resource that it names. -/
theorem coversResource_of_eq (h : g.resource = resource) : g.coversResource resource = true := by
  rw [coversResource, decide_eq_true h, Bool.or_true, Bool.true_or]

/-- A permission that covers a resource denies it. -/
theorem deniesResource_of_covers (h : p.coversResource resource = true) : p.deniesResource resource = true := by
  rw [coversResource, Bool.or_eq_true, Bool.and_eq_true] at h
  rw [deniesResource, Bool.or_eq_true, Bool.and_eq_true]
  refine h.imp_right fun ⟨hnamed, hmatches⟩ => ⟨hnamed, ?_⟩
  rw [expressionMatches] at hmatches
  cases hm : expressionMatches? p.expression resource with
  | none => rfl
  | some b =>
    rw [hm] at hmatches
    exact hmatches

end Permission

theorem Policy.coversRequest_of_mem {p : Policy} {g : Permission} {resource action : String}
    (hg : g ∈ p.permissions) (hresource : g.coversResource resource = true)
    (haction : g.allowsAction action = true) : p.coversRequest resource action = true := by
  rw [coversRequest, Bool.or_eq_true, List.any_eq_true]
  refine .inr ⟨g, hg, ?_⟩
  rw [hresource, haction, Bool.and_true]

namespace Inquiry
variable {found : List Policy} {p g : Permission} {a : String}

/-- The permissions that are reported when some policies are found. -/
def reported (found : List Policy) : List Permission :=
  if (found.filter fun p => p.effect = .deny).any (·.permissions.isEmpty) then []
  else Permission.subtractAll
    (((found.filter fun p => p.effect = .grant).flatMap (·.permissions)).filterMap onResource)
    ((found.filter fun p => p.effect = .deny).flatMap (·.permissions))

/-- A permission is reported because some policy grants it, and then no policy denies it. -/
theorem granted_of_mem_reported (hp : p ∈ reported found) (ha : p.allowsAction a = true) :
    (∃ granting ∈ found, granting.effect = .grant ∧ ∃ g ∈ granting.permissions,
      g.resource ≠ "" ∧ g.resource = p.resource ∧ g.allowsAction a = true) ∧
    ∀ denying ∈ found, denying.effect = .deny → denying.coversRequest p.resource a = false := by
  rw [reported] at hp
  split at hp
  · cases hp
  · next hblanket =>
    obtain ⟨left, hleft, hunder⟩ := Permission.mem_subtractAll.mp hp
    obtain ⟨g, hg, hon⟩ := List.mem_filterMap.mp hleft
    obtain ⟨granting, hgranting, hg⟩ := List.mem_flatMap.mp hg
    obtain ⟨hfound, hgrant⟩ := List.mem_filter.mp hgranting
    rw [onResource] at hon
    split at hon
    · cases hon
    · next hnamed =>
      obtain rfl := Option.some.inj hon
      obtain ⟨hresource, hactions⟩ := Permission.of_under hunder
      obtain ⟨hallowed, hdenied⟩ := hactions a ha
      refine ⟨⟨granting, hfound, of_decide_eq_true hgrant, g, hg, ?_, hresource.symm, hallowed⟩, ?_⟩
      · exact fun hnone => hnamed (String.isEmpty_iff.mpr hnone)
      · intro denying hdenying hdeny
        have hmem : denying ∈ found.filter fun p => p.effect = .deny :=
          List.mem_filter.mpr ⟨hdenying, decide_eq_true hdeny⟩
        rw [← Bool.not_eq_true, Policy.coversRequest, Bool.or_eq_true, List.any_eq_true]
        rintro (hnone | ⟨d, hd, hcovers⟩)
        · exact hblanket (List.any_eq_true.mpr ⟨denying, hmem, hnone⟩)
        · rw [Bool.and_eq_true, hresource] at hcovers
          have happlies := Permission.deniesResource_of_covers hcovers.1
          have hkept := hdenied d (List.mem_filter.mpr
            ⟨List.mem_flatMap.mpr ⟨denying, hmem, hd⟩, happlies⟩)
          exact absurd hcovers.2 (Bool.eq_false_iff.mp hkept)

/-- A permission on a named resource is reported with a listed action that is not denied, or with every action
if no denial applies to the resource. -/
theorem exists_mem_reported {granting : Policy} (hfound : granting ∈ found) (hgrant : granting.effect = .grant)
    (hg : g ∈ granting.permissions) (hnamed : g.resource ≠ "")
    (hblanket : ∀ denying ∈ found, denying.effect = .deny → denying.permissions ≠ [])
    (h : (a ∈ g.actions ∧ ∀ denying ∈ found, denying.effect = .deny → ∀ d ∈ denying.permissions,
        d.deniesResource g.resource = true → d.allowsAction a = false) ∨
      (g.actions = [] ∧ ∀ denying ∈ found, denying.effect = .deny → ∀ d ∈ denying.permissions,
        d.deniesResource g.resource = false)) :
    ∃ p ∈ reported found, p.resource = g.resource ∧ p.allowsAction a = true := by
  have hnot : ¬ (found.filter fun p => p.effect = .deny).any (·.permissions.isEmpty) = true := by
    rw [List.any_eq_true]
    rintro ⟨denying, hdenying, hnone⟩
    obtain ⟨hdenying, hdeny⟩ := List.mem_filter.mp hdenying
    exact hblanket denying hdenying (of_decide_eq_true hdeny) (List.isEmpty_iff.mp hnone)
  have hmem : { g with expression := "" } ∈
      ((found.filter fun p => p.effect = .grant).flatMap (·.permissions)).filterMap onResource := by
    refine List.mem_filterMap.mpr ⟨g, List.mem_flatMap.mpr ⟨granting, ?_, hg⟩, ?_⟩
    · exact List.mem_filter.mpr ⟨hfound, decide_eq_true hgrant⟩
    · rw [onResource, if_neg fun hnone => hnamed (String.isEmpty_iff.mp hnone)]
  have hdenial {d : Permission} (hd : d ∈ (((found.filter fun p => p.effect = .deny).flatMap
        (·.permissions)).filter fun d => d.deniesResource g.resource)) :
      d.deniesResource g.resource = true ∧ ∃ denying ∈ found, denying.effect = .deny ∧
        d ∈ denying.permissions := by
    obtain ⟨hd, happlies⟩ := List.mem_filter.mp hd
    obtain ⟨denying, hdenying, hd⟩ := List.mem_flatMap.mp hd
    obtain ⟨hdenying, hdeny⟩ := List.mem_filter.mp hdenying
    exact ⟨happlies, denying, hdenying, of_decide_eq_true hdeny, hd⟩
  rw [reported, if_neg hnot]
  rcases h with ⟨ha, hdenied⟩ | ⟨hevery, hdenied⟩
  · obtain ⟨p, hp, hresource, ha⟩ := Permission.exists_under (g := { g with expression := "" }) ha
      fun d hd => by
        obtain ⟨happlies, denying, hdenying, hdeny, hd⟩ := hdenial hd
        exact hdenied denying hdenying hdeny d hd happlies
    exact ⟨p, Permission.mem_subtractAll.mpr ⟨_, hmem, hp⟩, hresource, Permission.allowsAction_iff.mpr (.inr ha)⟩
  · have hnothing : ((found.filter fun p => p.effect = .deny).flatMap (·.permissions)).filter
        (fun d => d.deniesResource g.resource) = [] := by
      rw [List.eq_nil_iff_forall_not_mem]
      intro d hd
      obtain ⟨happlies, denying, hdenying, hdeny, hd⟩ := hdenial hd
      exact absurd happlies (Bool.eq_false_iff.mp (hdenied denying hdenying hdeny d hd))
    refine ⟨{ g with expression := "" }, Permission.mem_subtractAll.mpr ⟨_, hmem, ?_⟩, rfl,
      Permission.allowsAction_iff.mpr (.inl hevery)⟩
    exact congrArg (Permission.under { g with expression := "" }) hnothing

end Inquiry
end Turnstile

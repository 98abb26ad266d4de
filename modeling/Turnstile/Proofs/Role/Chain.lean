import Mathlib.Logic.Relation
import Mathlib.Tactic.Tauto
import Turnstile.Proofs.Dict
import Turnstile.Role.Resolution

/-! What role policies say on their own: which roles they grant from the presented principals, which
chains of grants hold a role up, and what it means that a source serves them. -/
namespace Turnstile

theorem Role.ofPrincipal?_eq_some_iff {q r : String} :
    Role.ofPrincipal? q = some r ↔ q = Role.principal r := by
  have strip (p l t : List Char) : Role.ofPrincipal?.go p l = some t ↔ l = p ++ t := by
    induction p generalizing l with
    | nil => simp [Role.ofPrincipal?.go]
    | cons c p ih =>
      cases l with
      | nil => simp [Role.ofPrincipal?.go]
      | cons b l => by_cases h : c = b <;> simp [Role.ofPrincipal?.go, h, ih, eq_comm]
  simp only [Role.ofPrincipal?, Option.map_eq_some_iff, strip, Role.principal]
  constructor
  · rintro ⟨t, ht, rfl⟩
    rw [← String.ofList_toList (s := q), ht, String.ofList_append, String.ofList_toList]
  · rintro rfl
    exact ⟨r.toList, String.toList_append, String.ofList_toList⟩

/-- The root of policies without principals stands for no role. -/
theorem Role.principal_ne_anyPrincipal (r : String) :
    Role.principal r ≠ RoleResolution.anyPrincipal := by
  intro h
  have hl := congrArg String.toList h
  simp [Role.principal, RoleResolution.anyPrincipal, String.toList_append] at hl

namespace RolePolicy

/-- The policy applies to the subject as such: it names no principal or one that is presented. -/
def IsDirect (presented : List String) (p : RolePolicy) : Prop :=
  p.principals = [] ∨ ∃ q ∈ p.principals, q ∈ presented

/-- The policy applies to whoever holds the role. -/
def Names (p : RolePolicy) (role : String) : Prop := Role.principal role ∈ p.principals

theorem names_iff {p : RolePolicy} {r : String} :
    p.Names r ↔ r ∈ p.principals.filterMap Role.ofPrincipal? := by
  simp only [Names, List.mem_filterMap, Role.ofPrincipal?_eq_some_iff, exists_eq_right]

/-- A policy that spells out the root of policies without principals, although nobody presents it. -/
def IsStray (presented : List String) (p : RolePolicy) : Prop :=
  RoleResolution.anyPrincipal ∈ p.principals ∧ RoleResolution.anyPrincipal ∉ presented

theorem isDirect_roles_iff {p : RolePolicy} {roles : List String} :
    p.IsDirect (roles.map Role.principal) ↔ p.principals = [] ∨ ∃ x ∈ roles, p.Names x := by
  simp only [IsDirect, Names, List.mem_map]
  constructor
  · rintro (h | ⟨_, hq, x, hx, rfl⟩)
    · exact .inl h
    · exact .inr ⟨x, hx, hq⟩
  · rintro (h | ⟨x, hx, hq⟩)
    · exact .inl h
    · exact .inr ⟨_, hq, x, hx, rfl⟩

instance (presented : List String) (p : RolePolicy) : Decidable (p.IsDirect presented) :=
  inferInstanceAs (Decidable (_ ∨ _))

instance (p : RolePolicy) (role : String) : Decidable (p.Names role) :=
  inferInstanceAs (Decidable (_ ∈ _))

instance (presented : List String) (p : RolePolicy) : Decidable (p.IsStray presented) :=
  inferInstanceAs (Decidable (_ ∧ _))

end RolePolicy

section Policies
variable (policies : List RolePolicy) (presented : List String)

/-- Some policy denies the role to the subject as such. -/
def DirectlyDenied (role : String) : Prop :=
  ∃ p ∈ policies, p.effect = .deny ∧ p.IsDirect presented ∧ role ∈ p.roles

instance (role : String) : Decidable (DirectlyDenied policies presented role) :=
  inferInstanceAs (Decidable (∃ p ∈ policies, _))

/-- Some policy grants the role to the holders of another one. -/
def Grants (parent role : String) : Prop :=
  ∃ p ∈ policies, p.effect = .grant ∧ p.Names parent ∧ role ∈ p.roles

/-- Some policy denies the role to the holders of another one. -/
def Denies (denier role : String) : Prop :=
  ∃ p ∈ policies, p.effect = .deny ∧ p.Names denier ∧ role ∈ p.roles

/-- Some policy that names the first role lists the second one. -/
def Leads (first second : String) : Prop :=
  ∃ p ∈ policies, p.Names first ∧ second ∈ p.roles

/-- The roles that grants spread to, passing over those that are directly denied. -/
inductive Granted : String → Prop where
  | direct {p : RolePolicy} {role : String} (hp : p ∈ policies) (he : p.effect = .grant)
      (hd : p.IsDirect presented) (hr : role ∈ p.roles)
      (hn : ¬ DirectlyDenied policies presented role) : Granted role
  | through {p : RolePolicy} {parent role : String} (hp : p ∈ policies) (he : p.effect = .grant)
      (hx : p.Names parent) (hg : Granted parent) (hr : role ∈ p.roles)
      (hn : ¬ DirectlyDenied policies presented role) : Granted role

/-- A finite chain of grants from the subject to a role. The roles on the way belong to a set. -/
inductive Chain (among : String → Prop) : String → Prop where
  | direct {p : RolePolicy} {role : String} (hp : p ∈ policies) (he : p.effect = .grant)
      (hd : p.IsDirect presented) (hr : role ∈ p.roles) : Chain among role
  | through {p : RolePolicy} {parent role : String} (hp : p ∈ policies) (he : p.effect = .grant)
      (hx : p.Names parent) (hs : among parent) (hc : Chain among parent) (hr : role ∈ p.roles) :
      Chain among role

/-- No granted role leads back to itself. -/
def Acyclic : Prop :=
  ∀ r, ¬ Relation.TransGen (fun x y => Granted policies presented x ∧ Granted policies presented y ∧
    Leads policies x y) r r

/-- A role may be missing from a set of roles: one of them denies it, or no chain through them
grants it. -/
def Justified (among : String → Prop) (role : String) : Prop :=
  (∃ d, among d ∧ Denies policies d role) ∨ ¬ Chain policies presented among role

end Policies

variable {policies : List RolePolicy} {presented : List String}

/-- Policies that lead from role to role upwards only have no circles. -/
theorem acyclic_of_rank (rank : String → Nat)
    (h : ∀ p ∈ policies, ∀ x ∈ p.principals.filterMap Role.ofPrincipal?, ∀ y ∈ p.roles,
      rank x < rank y) : Acyclic policies presented := by
  intro r hr
  have hlt {a b : String} (hab : Relation.TransGen (fun x y => Granted policies presented x ∧
      Granted policies presented y ∧ Leads policies x y) a b) : rank a < rank b := by
    induction hab with
    | single hstep =>
      obtain ⟨-, -, p, hp, hn, hy⟩ := hstep
      exact h p hp _ (RolePolicy.names_iff.mp hn) _ hy
    | tail _ hstep ih =>
      obtain ⟨-, -, p, hp, hn, hy⟩ := hstep
      exact Nat.lt_trans ih (h p hp _ (RolePolicy.names_iff.mp hn) _ hy)
  exact Nat.lt_irrefl _ (hlt hr)

theorem Chain.mono {among more : String → Prop} {role : String}
    (h : Chain policies presented among role) (hm : ∀ r, among r → more r) :
    Chain policies presented more role := by
  induction h with
  | direct hp he hd hr => exact .direct hp he hd hr
  | through hp he hx hs _ hr ih => exact .through hp he hx (hm _ hs) ih hr

theorem Granted.not_directlyDenied {role : String} (h : Granted policies presented role) :
    ¬ DirectlyDenied policies presented role := by
  cases h <;> assumption

theorem Granted.chain {role : String} (h : Granted policies presented role) :
    Chain policies presented (Granted policies presented) role := by
  induction h with
  | direct hp he hd hr _ => exact .direct hp he hd hr
  | through hp he hx hg hr _ ih => exact .through hp he hx hg ih hr

/-- The answers of a source hold exactly the policies that have not been seen and that name no
principal or one of those asked about, in any order, and in whatever state the source is. -/
structure RoleSource.Serves {τ : Type} (source : RoleSource (StateM τ))
    (policies : List RolePolicy) : Prop where
  size : policies.length ≤ source.size
  granted : ∀ principals seen t p, p ∈ (source.query principals seen t).1.granted ↔
    p ∈ policies ∧ p.effect = .grant ∧ p.id ∉ seen ∧ p.IsDirect principals
  denied : ∀ principals seen t p, p ∈ (source.query principals seen t).1.denied ↔
    p ∈ policies ∧ p.effect = .deny ∧ p.id ∉ seen ∧ p.IsDirect principals

/-- It is enough that the source answers so for the principals that are presented, and for some principals. Asked
about no principals it denies nothing but what is denied to everybody. -/
structure RoleSource.ServesFrom {τ : Type} (source : RoleSource (StateM τ)) (policies : List RolePolicy)
    (presented : List String) : Prop where
  size : policies.length ≤ source.size
  granted : ∀ principals, principals = presented ∨ principals ≠ [] → ∀ seen t p,
    p ∈ (source.query principals seen t).1.granted ↔
      p ∈ policies ∧ p.effect = .grant ∧ p.id ∉ seen ∧ p.IsDirect principals
  denied : ∀ principals, principals = presented ∨ principals ≠ [] → ∀ seen t p,
    p ∈ (source.query principals seen t).1.denied ↔
      p ∈ policies ∧ p.effect = .deny ∧ p.id ∉ seen ∧ p.IsDirect principals
  unasked : ∀ seen t p, p ∈ (source.query [] seen t).1.denied →
    p ∈ policies ∧ p.effect = .deny ∧ p.id ∉ seen ∧ p.principals = []

theorem RoleSource.Serves.servesFrom {τ : Type} {source : RoleSource (StateM τ)} {policies : List RolePolicy}
    (h : source.Serves policies) (presented : List String) : source.ServesFrom policies presented where
  size := h.size
  granted principals _ := h.granted principals
  denied principals _ := h.denied principals
  unasked seen t p hp := by
    obtain ⟨hp, he, hu, hd⟩ := (h.denied [] seen t p).mp hp
    exact ⟨hp, he, hu, hd.resolve_right fun hq => hq.elim fun _ hq => nomatch hq.2⟩

/-- The source that looks through a list. -/
def RoleSource.ofList (policies : List RolePolicy) : RoleSource (StateM Unit) where
  size := policies.length
  query principals seen :=
    let found := policies.filter fun p => p.id ∉ seen ∧ p.IsDirect principals
    pure ⟨found.filter (·.effect = .grant), found.filter (·.effect = .deny)⟩

theorem RoleSource.ofList_serves (policies : List RolePolicy) :
    (RoleSource.ofList policies).Serves policies where
  size := Nat.le_refl _
  granted principals seen _ p := by
    change p ∈ (policies.filter _).filter _ ↔ _
    simp only [List.mem_filter, decide_eq_true_eq]
    tauto
  denied principals seen _ p := by
    change p ∈ (policies.filter _).filter _ ↔ _
    simp only [List.mem_filter, decide_eq_true_eq]
    tauto

end Turnstile

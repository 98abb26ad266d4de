import Mathlib.Data.List.Basic
import Turnstile.Principal

/-! Which principals share a canonical text. Colons separate its parts, but a name and a domain may contain colons,
too: a domain can take up the kind of another principal and some of its name. -/
namespace Turnstile.Principal

/-- The kinds that subjects present. A subject that presents one of them is authenticated. -/
def Authenticates (p : Principal) : Prop := p.kind = "user" ∨ p.kind = "group" ∨ p.kind = "entity"

instance (p : Principal) : Decidable p.Authenticates := inferInstanceAs (Decidable (_ ∨ _))

/-- The domain of the second principal is that of the first one, with its kind and some of its name. The rest of the
name is the text of the second principal without the domain. -/
def Nests (p q : Principal) : Prop :=
  p.domain ≠ "" ∧ ∃ part, q.domain = p.domain ++ ":" ++ p.kind ++ part ∧
    ":" ++ p.name = part ++ ":" ++ q.withoutDomain.canonical

variable {p q : Principal}

section Characters

/-- A domain as it stands before the kind. -/
private def lead (domain : List Char) : List Char :=
  if domain = [] then [] else "idd=".toList ++ (domain ++ [':'])

private theorem canonical_eq (p : Principal) : p.canonical =
    if p.domain.isEmpty then p.kind ++ ":" ++ p.name else "idd=" ++ p.domain ++ ":" ++ p.kind ++ ":" ++ p.name := rfl

theorem toList_canonical_withoutDomain (p : Principal) :
    p.withoutDomain.canonical.toList = p.kind.toList ++ ':' :: p.name.toList := by
  rw [canonical_eq]
  simp [withoutDomain, withDomain, String.toList_append]

private theorem toList_canonical (p : Principal) :
    p.canonical.toList = lead p.domain.toList ++ p.withoutDomain.canonical.toList := by
  rw [toList_canonical_withoutDomain, canonical_eq, lead]
  by_cases hp : p.domain = ""
  · simp [hp, String.toList_append]
  · simp [hp, String.toList_append]

/-- Where a colon is met twice, the second text goes on with some of the first one. -/
private theorem append_colon_eq_iff {k l m n : List Char} (hk : ':' ∉ k) :
    k ++ ':' :: n = l ++ ':' :: m ↔ ∃ part, l = k ++ part ∧ ':' :: n = part ++ ':' :: m := by
  rw [List.append_eq_append_iff]
  constructor
  · rintro (⟨part, rfl, hn⟩ | ⟨part, rfl, hm⟩)
    · exact ⟨part, rfl, hn⟩
    · cases part with
      | nil =>
        refine ⟨[], ?_, hm.symm⟩
        rw [List.append_nil, List.append_nil]
      | cons c part =>
        obtain ⟨rfl, -⟩ := List.cons.inj hm
        exact absurd (List.mem_append_right l List.mem_cons_self) hk
  · rintro ⟨part, rfl, hn⟩
    exact .inl ⟨part, rfl, hn⟩

end Characters

section Kinds
variable (hp : p.Authenticates)
include hp

theorem Authenticates.colon_not_mem : ':' ∉ p.kind.toList := by
  rcases hp with hp | hp | hp
  all_goals rw [hp]; decide

/-- A kind begins neither like a domain nor like a role. -/
theorem Authenticates.exists_cons : ∃ c rest, p.kind.toList = c :: rest ∧ c ≠ 'i' ∧ c ≠ 'r' := by
  rcases hp with hp | hp | hp
  all_goals rw [hp]; exact ⟨_, _, rfl, by decide, by decide⟩

end Kinds

theorem nests_iff : p.Nests q ↔
    p.domain ≠ "" ∧ ∃ part, q.domain.toList = p.domain.toList ++ ':' :: p.kind.toList ++ part ∧
      ':' :: p.name.toList = part ++ ':' :: q.withoutDomain.canonical.toList := by
  refine and_congr_right fun _ => ⟨?_, ?_⟩
  · rintro ⟨part, hdomain, hname⟩
    refine ⟨part.toList, ?_, ?_⟩
    · simp [hdomain, String.toList_append]
    · simpa [String.toList_append] using congrArg String.toList hname
  · rintro ⟨part, hdomain, hname⟩
    refine ⟨.ofList part, ?_, ?_⟩
    · apply String.toList_injective
      simp [hdomain, String.toList_append]
    · apply String.toList_injective
      simp [hname, String.toList_append]

/-- Such a domain and such a name contain a colon each. -/
theorem Nests.colon_mem (h : p.Nests q) : ':' ∈ q.domain.toList ∧ ':' ∈ p.name.toList := by
  obtain ⟨-, part, hdomain, hname⟩ := nests_iff.mp h
  constructor
  · rw [hdomain]
    exact List.mem_append_left _ (List.mem_append_right _ List.mem_cons_self)
  · cases part with
    | nil =>
      rw [(List.cons.inj hname).2, toList_canonical_withoutDomain]
      exact List.mem_append_right _ List.mem_cons_self
    | cons c part =>
      rw [(List.cons.inj hname).2]
      exact List.mem_append_right _ List.mem_cons_self

theorem Nests.domain_ne (h : p.Nests q) : q.domain ≠ "" := by
  intro hnone
  have hcolon := h.colon_mem.1
  rw [hnone] at hcolon
  exact absurd hcolon List.not_mem_nil

/-- Besides the domain the text tells the kind and the name. -/
theorem eq_of_canonical_withoutDomain (hp : p.Authenticates) (hq : q.Authenticates)
    (hdomain : p.domain.toList = q.domain.toList)
    (h : p.withoutDomain.canonical.toList = q.withoutDomain.canonical.toList) : p = q := by
  rw [toList_canonical_withoutDomain, toList_canonical_withoutDomain, append_colon_eq_iff hp.colon_not_mem] at h
  obtain ⟨part, hkind, hname⟩ := h
  cases part with
  | nil =>
    rw [List.append_nil] at hkind
    have hkind := String.toList_injective hkind
    have hname := String.toList_injective (List.cons.inj hname).2
    have hdomain := String.toList_injective hdomain
    cases p
    cases q
    simp_all
  | cons c part =>
    obtain ⟨rfl, -⟩ := List.cons.inj hname
    refine absurd ?_ hq.colon_not_mem
    rw [hkind]
    exact List.mem_append_right _ List.mem_cons_self

/-- A domain shows. -/
private theorem domain_eq_nil_iff (hp : p.Authenticates) (hq : q.Authenticates) (h : p.canonical = q.canonical) :
    p.domain.toList = [] ↔ q.domain.toList = [] := by
  have key {p q : Principal} (hq : q.Authenticates) (h : p.canonical = q.canonical) (hnone : q.domain.toList = []) :
      p.domain.toList = [] := by
    obtain ⟨c, rest, hkind, hc, -⟩ := hq.exists_cons
    have hlist := congrArg String.toList h
    rw [toList_canonical, toList_canonical q, toList_canonical_withoutDomain q, hnone, hkind] at hlist
    by_contra hsome
    rw [lead, if_neg hsome] at hlist
    exact hc (List.cons.inj hlist).1.symm
  exact ⟨key hp h.symm, key hq h⟩

/-- No role has such a text. -/
theorem Authenticates.canonical_ne_role (hp : p.Authenticates) (role : String) : p.canonical ≠ Role.principal role := by
  intro h
  obtain ⟨c, rest, hkind, -, hc⟩ := hp.exists_cons
  have hlist := congrArg String.toList h
  rw [toList_canonical, toList_canonical_withoutDomain, hkind, Role.principal, String.toList_append, lead] at hlist
  split at hlist
  · exact hc (List.cons.inj hlist).1
  · cases (List.cons.inj hlist).1

/-- A domain that goes on longer than the other one takes up the kind there. -/
private theorem eq_or_nests (hp : p.Authenticates) (hq : q.Authenticates) (hdomain : p.domain.toList ≠ [])
    {more : List Char} (hmore : q.domain.toList = p.domain.toList ++ more)
    (h : ':' :: p.withoutDomain.canonical.toList = more ++ ':' :: q.withoutDomain.canonical.toList) :
    p = q ∨ p.Nests q := by
  cases more with
  | nil =>
    rw [List.append_nil] at hmore
    exact .inl (eq_of_canonical_withoutDomain hp hq hmore.symm (List.cons.inj h).2)
  | cons c more =>
    obtain ⟨rfl, hrest⟩ := List.cons.inj h
    rw [toList_canonical_withoutDomain p] at hrest
    obtain ⟨part, rfl, hname⟩ := (append_colon_eq_iff hp.colon_not_mem).mp hrest
    refine .inr (nests_iff.mpr ⟨fun hnone => hdomain (hnone ▸ rfl), part, ?_, hname⟩)
    rw [hmore, List.append_assoc, List.cons_append]

theorem Nests.canonical_eq (h : p.Nests q) : p.canonical = q.canonical := by
  obtain ⟨hsome, part, hdomain, hname⟩ := nests_iff.mp h
  have hp : p.domain.toList ≠ [] := fun hnil => hsome (String.toList_injective hnil)
  have hq : q.domain.toList ≠ [] := fun hnil => h.domain_ne (String.toList_injective hnil)
  apply String.toList_injective
  rw [toList_canonical, toList_canonical q, lead, lead, if_neg hp, if_neg hq, hdomain, toList_canonical_withoutDomain p,
    hname]
  simp only [List.append_assoc, List.cons_append, List.nil_append]

/-- Principals share a text if one of them is nested in the other one, and in no other way. -/
theorem canonical_eq_iff (hp : p.Authenticates) (hq : q.Authenticates) :
    p.canonical = q.canonical ↔ p = q ∨ p.Nests q ∨ q.Nests p := by
  constructor
  · intro h
    have hnone := domain_eq_nil_iff hp hq h
    have hlist := congrArg String.toList h
    rw [toList_canonical, toList_canonical q] at hlist
    by_cases hdomain : p.domain.toList = []
    · rw [hdomain, hnone.mp hdomain] at hlist
      exact .inl (eq_of_canonical_withoutDomain hp hq (hdomain.trans (hnone.mp hdomain).symm) hlist)
    · have hdomain' := mt hnone.mpr hdomain
      rw [lead, lead, if_neg hdomain, if_neg hdomain', List.append_assoc, List.append_assoc, List.append_assoc,
        List.append_assoc] at hlist
      rcases List.append_eq_append_iff.mp (List.append_cancel_left hlist) with
        ⟨more, hmore, hrest⟩ | ⟨more, hmore, hrest⟩
      · exact (eq_or_nests hp hq hdomain hmore hrest).imp_right .inl
      · exact (eq_or_nests hq hp hdomain' hmore hrest).imp Eq.symm .inr
  · rintro (rfl | h | h)
    · rfl
    · exact h.canonical_eq
    · exact h.canonical_eq.symm

end Turnstile.Principal

import Turnstile.Proofs.Evaluation.Inquiry
import Turnstile.Proofs.Principal.Encoding
import Turnstile.Proofs.Role.Chain

/-! What a subject presents. Its roles are those that everybody has: no principal passes for a role, whatever its name
and its domain are. For another principal it passes if its text does. -/
namespace Turnstile

namespace Principal
variable {p q : Principal} {a : String}

theorem withoutDomain_eq_self (h : p.domain = "") : p.withoutDomain = p := by
  rw [withoutDomain, withDomain, ← h]

theorem mem_encodings_iff : a ∈ p.encodings ↔ a = p.canonical ∨ a = p.withoutDomain.canonical := by
  rw [encodings, List.mem_cons]
  split
  · next hnone =>
    rw [withoutDomain_eq_self (String.isEmpty_iff.mp hnone), or_self, or_iff_left List.not_mem_nil]
  · rw [List.mem_singleton]

theorem Authenticates.withoutDomain (hp : p.Authenticates) : p.withoutDomain.Authenticates := hp

/-- A subject cannot present the text of a role. -/
theorem Authenticates.ofPrincipal?_encodings (hp : p.Authenticates) (ha : a ∈ p.encodings) :
    Role.ofPrincipal? a = none := by
  rw [Option.eq_none_iff_forall_ne_some]
  intro role hrole
  have hrole := Role.ofPrincipal?_eq_some_iff.mp hrole
  rcases mem_encodings_iff.mp ha with rfl | rfl
  · exact hp.canonical_ne_role role hrole
  · exact hp.withoutDomain.canonical_ne_role role hrole

end Principal

namespace Subject
variable {s : Subject} {a kind : String}

theorem mem_encodingsOf_iff : a ∈ s.encodingsOf kind ↔ ∃ p ∈ s.principals, p.kind = kind ∧ a ∈ p.encodings := by
  simp only [encodingsOf, List.mem_flatMap, List.mem_filter, decide_eq_true_eq, and_assoc]

theorem isEmpty_encodingsOf_iff : (s.encodingsOf kind).isEmpty = true ↔ ∀ p ∈ s.principals, p.kind ≠ kind := by
  simp only [List.isEmpty_iff, List.eq_nil_iff_forall_not_mem, mem_encodingsOf_iff]
  constructor
  · exact fun h p hp hkind => h p.canonical ⟨p, hp, hkind, List.mem_cons_self⟩
  · rintro h a ⟨p, hp, hkind, -⟩
    exact h p hp hkind

/-- A subject is anonymous if it presents neither a user nor a group nor an entity. -/
theorem isAnonymous_iff : ((s.encodingsOf "user").isEmpty && (s.encodingsOf "group").isEmpty &&
    (s.encodingsOf "entity").isEmpty) = true ↔ ¬ ∃ p ∈ s.principals, p.Authenticates := by
  simp only [Bool.and_eq_true, isEmpty_encodingsOf_iff, Principal.Authenticates, not_exists, not_and, not_or]
  constructor
  · exact fun h p hp => ⟨h.1.1 p hp, h.1.2 p hp, h.2 p hp⟩
  · exact fun h => ⟨⟨fun p hp => (h p hp).1, fun p hp => (h p hp).2.1⟩, fun p hp => (h p hp).2.2⟩

theorem filterMap_encodingsOf (hkind : ∀ p : Principal, p.kind = kind → p.Authenticates) :
    (s.encodingsOf kind).filterMap Role.ofPrincipal? = [] := by
  rw [List.filterMap_eq_nil_iff]
  intro a ha
  obtain ⟨p, -, hp, ha⟩ := mem_encodingsOf_iff.mp ha
  exact (hkind p hp).ofPrincipal?_encodings ha

/-- The roles of a subject before others are found. -/
theorem roles_effectivePrincipals (s : Subject) : s.effectivePrincipals.filterMap Role.ofPrincipal? =
    [Role.everyone, if ∃ p ∈ s.principals, p.Authenticates then Role.authenticated else Role.anonymous] := by
  have husers : (s.encodingsOf "user").filterMap Role.ofPrincipal? = [] := filterMap_encodingsOf fun _ => .inl
  have hgroups : (s.encodingsOf "group").filterMap Role.ofPrincipal? = [] :=
    filterMap_encodingsOf fun _ hp => .inr (.inl hp)
  have hentities : (s.encodingsOf "entity").filterMap Role.ofPrincipal? = [] :=
    filterMap_encodingsOf fun _ hp => .inr (.inr hp)
  have hrole (role : String) : Role.ofPrincipal? (Role.principal role) = some role :=
    Role.ofPrincipal?_eq_some_iff.mpr rfl
  rw [effectivePrincipals]
  by_cases hsome : ∃ p ∈ s.principals, p.Authenticates
  · rw [if_neg (mt isAnonymous_iff.mp (not_not.mpr hsome)), if_pos hsome]
    simp only [List.filterMap_cons, List.filterMap_append, List.filterMap_nil, husers, hgroups, hentities, hrole,
      List.nil_append, List.append_nil, List.cons_append]
  · rw [if_pos (isAnonymous_iff.mpr hsome), if_neg hsome]
    simp only [List.filterMap_cons, hgroups, hrole, List.nil_append, List.cons_append]

theorem mem_effectivePrincipals_iff : a ∈ s.effectivePrincipals ↔ a = Role.principal Role.everyone ∨
    a = Role.principal (if ∃ p ∈ s.principals, p.Authenticates then Role.authenticated else Role.anonymous) ∨
      ∃ p ∈ s.principals, p.Authenticates ∧ a ∈ p.encodings := by
  have hkinds : (∃ p ∈ s.principals, p.Authenticates ∧ a ∈ p.encodings) ↔
      a ∈ s.encodingsOf "user" ∨ a ∈ s.encodingsOf "group" ∨ a ∈ s.encodingsOf "entity" := by
    simp only [mem_encodingsOf_iff, Principal.Authenticates, or_and_right, and_or_left, exists_or]
  rw [effectivePrincipals]
  by_cases hsome : ∃ p ∈ s.principals, p.Authenticates
  · rw [if_neg (mt isAnonymous_iff.mp (not_not.mpr hsome)), if_pos hsome, hkinds]
    simp only [List.mem_cons, List.mem_append, List.not_mem_nil, or_false]
    grind
  · have hnone : ¬ ∃ p ∈ s.principals, p.Authenticates ∧ a ∈ p.encodings := by
      rintro ⟨p, hp, hkind, -⟩
      exact hsome ⟨p, hp, hkind⟩
    rw [hkinds] at hnone
    rw [if_pos (isAnonymous_iff.mpr hsome), if_neg hsome, hkinds]
    simp only [List.mem_cons, List.mem_append, List.not_mem_nil, or_false]
    grind

/-- Besides its roles a subject presents its principals, with and without their domains. -/
theorem mem_effectivePrincipals_iff_encodings : a ∈ s.effectivePrincipals ∧ Role.ofPrincipal? a = none ↔
    ∃ p ∈ s.principals, p.Authenticates ∧ (a = p.canonical ∨ a = p.withoutDomain.canonical) := by
  have hrole (role : String) : Role.ofPrincipal? (Role.principal role) ≠ none := by
    rw [Role.ofPrincipal?_eq_some_iff.mpr rfl]
    exact Option.some_ne_none role
  simp only [← Principal.mem_encodings_iff]
  constructor
  · rintro ⟨ha, hnone⟩
    rcases mem_effectivePrincipals_iff.mp ha with rfl | rfl | hsome
    · exact absurd hnone (hrole _)
    · exact absurd hnone (hrole _)
    · exact hsome
  · rintro ⟨p, hp, hkind, ha⟩
    exact ⟨mem_effectivePrincipals_iff.mpr (.inr (.inr ⟨p, hp, hkind, ha⟩)), hkind.ofPrincipal?_encodings ha⟩

end Subject

/-- A subject passes for a principal if it presents that, perhaps with a domain, or another one with the same text. -/
theorem Subject.canonical_mem_effectivePrincipals_iff (s : Subject) {q : Principal} (hq : q.Authenticates) :
    q.canonical ∈ s.effectivePrincipals ↔
      ∃ p ∈ s.principals, p.Authenticates ∧ (p = q ∨ p.withoutDomain = q ∨ p.Nests q ∨ q.Nests p) := by
  have hrole : Role.ofPrincipal? q.canonical = none := hq.ofPrincipal?_encodings List.mem_cons_self
  have hpresents : q.canonical ∈ s.effectivePrincipals ↔ ∃ p ∈ s.principals, p.Authenticates ∧
      (q.canonical = p.canonical ∨ q.canonical = p.withoutDomain.canonical) := by
    rw [← mem_effectivePrincipals_iff_encodings, and_iff_left hrole]
  rw [hpresents]
  refine exists_congr fun p => and_congr_right fun _ => and_congr_right fun hp => ?_
  have hplain : p.withoutDomain.canonical = q.canonical ↔ p.withoutDomain = q := by
    rw [Principal.canonical_eq_iff hp.withoutDomain hq, or_iff_left]
    rintro (h | h)
    · exact h.1 rfl
    · exact h.domain_ne rfl
  rw [eq_comm, Principal.canonical_eq_iff hp hq, eq_comm (a := q.canonical), hplain]
  grind

namespace Principal

/-- Users, groups and entities share a text only if the domain of one takes up the kind of the other one, so that this
domain and the other name contain a colon. A subject passes for whoever shares a text with one of its principals, and
for its principals without their domains. -/
theorem canonical_eq_iff_nests {q : Principal} (hq : q.Authenticates) :
    (∀ p : Principal, p.Authenticates → (p.canonical = q.canonical ↔ p = q ∨ p.Nests q ∨ q.Nests p)) ∧
    (∀ p p' : Principal, p.Nests p' → ':' ∈ p'.domain.toList ∧ ':' ∈ p.name.toList) ∧
    ∀ s : Subject, q.canonical ∈ s.effectivePrincipals ↔
      ∃ p ∈ s.principals, p.Authenticates ∧ (p = q ∨ p.withoutDomain = q ∨ p.Nests q ∨ q.Nests p) :=
  ⟨fun _ hp => canonical_eq_iff hp hq, fun _ _ h => h.colon_mem,
    fun s => s.canonical_mem_effectivePrincipals_iff hq⟩

/-- A Bill of one domain does not pass for the Bill of another one. -/
theorem canonical_eq_iff_nests_bill :
    let bill := (user "bill").withDomain "north"
    let other := (user "bill").withDomain "south"
    bill.Authenticates ∧ bill.canonical ∉ ({ principals := [other] } : Subject).effectivePrincipals := by
  intro bill other
  have hkind : bill.Authenticates := .inl rfl
  refine ⟨hkind, fun hpasses => ?_⟩
  obtain ⟨-, hcolon, hpresents⟩ := canonical_eq_iff_nests hkind
  obtain ⟨p, hp, -, hsame⟩ := (hpresents _).mp hpasses
  obtain rfl := List.mem_singleton.mp hp
  rcases hsame with h | h | h | h
  · exact absurd h (by decide)
  · exact absurd h (by decide)
  · exact absurd (hcolon _ _ h).1 (by decide)
  · exact absurd (hcolon _ _ h).1 (by decide)

/-- The domain `north:user:desk` makes Ann share her text with a user of the domain `north`, who passes for her. -/
theorem canonical_not_injective :
    let ann := (user "ann").withDomain "north:user:desk"
    let other := (user "desk:user:ann").withDomain "north"
    ann.canonical = "idd=north:user:desk:user:ann" ∧ other.canonical = "idd=north:user:desk:user:ann" ∧
      ann.canonical ∈ ({ principals := [other] } : Subject).effectivePrincipals ∧
      ¬ ∀ p q : Principal, p.Authenticates → q.Authenticates → p.canonical = q.canonical → p = q := by
  intro ann other
  have hann : ann.canonical = "idd=north:user:desk:user:ann" := by decide +kernel
  have hother : other.canonical = "idd=north:user:desk:user:ann" := by decide +kernel
  refine ⟨hann, hother, by decide +kernel, fun hall => ?_⟩
  have hsame := hall ann other (.inl rfl) (.inl rfl) (hann.trans hother.symm)
  exact absurd (congrArg Principal.domain hsame) (by decide)

end Principal

namespace Registry

/-- A request for a service that is loaded is resolved if its token is not rejected. -/
theorem exists_inquire {r : Registry} {asserter : Option TokenAsserter} {request : Request} {target : LoadedService}
    {subject : Option Subject} (now : ClockTime) (loaded : r.service? request.service = some target)
    (asserted : request.subject.mapM (Subject.assert asserter) = .ok subject) :
    ∃ q, r.inquire asserter now request = .ok q ∧ q.subject = subject ∧
      q.principals = (subject.getD {}).effectivePrincipals := by
  have hresolved : ∃ q, r.inquire asserter now request = .ok q := by
    rw [inquire, loaded]
    cases hs : request.subject with
    | none => exact ⟨_, rfl⟩
    | some s =>
      rw [hs] at asserted
      change some <$> s.assert asserter = .ok subject at asserted
      cases ha : s.assert asserter with
      | error e =>
        rw [ha] at asserted
        cases asserted
      | ok checked =>
        simp only [ha]
        exact ⟨_, rfl⟩
  obtain ⟨q, hq⟩ := hresolved
  obtain ⟨_, checked, _, hchecked, rfl⟩ := of_inquire hq
  obtain rfl := Except.ok.inj (asserted.symm.trans hchecked)
  exact ⟨_, hq, rfl, rfl⟩

/-- Nobody forges roles. Whatever principals a request presents, and whatever its token adds, the roles before
resolution are that of everybody and one of two others; all else are texts of the users, groups and entities. -/
theorem roles_of_inquire (r : Registry) (asserter : Option TokenAsserter) (now : ClockTime) (request : Request)
    (target : LoadedService) (subject : Option Subject) (loaded : r.service? request.service = some target)
    (asserted : request.subject.mapM (Subject.assert asserter) = .ok subject) :
    ∃ q, r.inquire asserter now request = .ok q ∧ q.subject = subject ∧
      let presented := (subject.getD {}).principals
      q.principals.filterMap Role.ofPrincipal? =
        [Role.everyone, if ∃ p ∈ presented, p.Authenticates then Role.authenticated else Role.anonymous] ∧
      ∀ a, a ∈ q.principals ∧ Role.ofPrincipal? a = none ↔
        ∃ p ∈ presented, p.Authenticates ∧ (a = p.canonical ∨ a = p.withoutDomain.canonical) := by
  obtain ⟨q, hq, hsubject, hprincipals⟩ := exists_inquire now loaded asserted
  refine ⟨q, hq, hsubject, ?_⟩
  rw [hprincipals]
  exact ⟨Subject.roles_effectivePrincipals _, fun _ => Subject.mem_effectivePrincipals_iff_encodings⟩

end Registry

/-- Vouches for Ann. -/
def frontDesk : TokenAsserter := fun s => .ok (s.withPrincipal ((Principal.user "ann").withDomain "north"))

/-- Somebody claims to be a member, with a token and with principals that look like a role. -/
def forging : Request where
  subject := some {
    principals := [.role "member", ⟨"role:member", "", ""⟩, ⟨"", "role:member", "role:member"⟩]
    tokenKind := "card"
    token := "1" }
  service := "library"

namespace Registry

/-- Nothing comes of that but what the token says. -/
theorem roles_of_inquire_forging :
    let r := ({} : Registry).addService { name := "library" }
    let subject := { forging.subject.getD {} with
      principals := (forging.subject.getD {}).principals ++ [(Principal.user "ann").withDomain "north"]
      asserted := true }
    (r.service? "library").isSome ∧ forging.subject.mapM (Subject.assert frontDesk) = .ok (some subject) ∧
      ∃ q, r.inquire frontDesk ⟨0, 0⟩ forging = .ok q ∧
        q.principals.filterMap Role.ofPrincipal? = [Role.everyone, Role.authenticated] ∧
        "idd=north:user:ann" ∈ q.principals := by
  intro r subject
  have hloaded : (r.service? "library").isSome := by decide +kernel
  obtain ⟨target, htarget⟩ := Option.isSome_iff_exists.mp hloaded
  have hasserted : forging.subject.mapM (Subject.assert frontDesk) = .ok (some subject) := rfl
  obtain ⟨q, hq, -, hroles, hothers⟩ := r.roles_of_inquire frontDesk ⟨0, 0⟩ forging target subject htarget hasserted
  refine ⟨hloaded, hasserted, q, hq, ?_, ?_⟩
  · rw [hroles]
    decide +kernel
  · refine ((hothers "idd=north:user:ann").mpr ⟨(Principal.user "ann").withDomain "north", ?_, .inl rfl, .inl ?_⟩).1
    · decide +kernel
    · decide +kernel

end Registry
end Turnstile

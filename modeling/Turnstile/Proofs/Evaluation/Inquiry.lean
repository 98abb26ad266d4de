import Mathlib.Data.List.Forall2
import Turnstile.Evaluation.Inquiry
import Turnstile.Proofs.Registry.History

/-! What an inquiry knows, in terms of what is live: a request whose service is loaded and whose
token is not rejected is always resolved. -/
namespace Turnstile

namespace Catalogue

/-- The services whose rules count for a service: itself and, unless it is that, the global one. -/
def servicesFor (c : Catalogue) (name : String) : List LiveService :=
  (c.services.get? name).toList ++
    if name = Service.globalName then [] else (c.services.get? Service.globalName).toList

/-- The live policies that count for a service. -/
def policiesFor (c : Catalogue) (name : String) : List Policy :=
  (c.servicesFor name).flatMap (·.policies.values)

end Catalogue

namespace Inquiry

/-- The inquiry is about the request of a subject, put to what is live. -/
structure Resolves (q : Inquiry) (c : Catalogue) (now : ClockTime) (request : Request)
    (subject : Option Subject) : Prop where
  services : List.Forall₂ (LoadedService.Keeps c.functions) q.services (c.servicesFor request.service)
  functions : q.functions = c.functions
  resource : q.resource = request.resource
  action : q.action = request.action
  principals : q.principals = (subject.getD {}).effectivePrincipals
  attributes : q.attributes = Attributes.ofRequest now subject request

end Inquiry

/-- A request that is resolved is about a service that is loaded, and its token is not rejected. -/
theorem Registry.of_inquire {r : Registry} {asserter : Option TokenAsserter} {now : ClockTime}
    {request : Request} {q : Inquiry} (hq : r.inquire asserter now request = .ok q) :
    ∃ target subject, r.service? request.service = some target ∧
      request.subject.mapM (Subject.assert asserter) = .ok subject ∧ q = {
        services := target :: (if request.service = Service.globalName then none else r.global?).toList
        functions := r.functions
        resource := request.resource
        action := request.action
        principals := (subject.getD {}).effectivePrincipals
        attributes := Attributes.ofRequest now subject request
        subject := subject } := by
  rw [Registry.inquire] at hq
  cases htarget : r.service? request.service with
  | none =>
    rw [htarget] at hq
    cases hq
  | some target =>
    rw [htarget] at hq
    cases hs : request.subject with
    | none =>
      rw [hs] at hq
      exact ⟨target, none, rfl, rfl, (Except.ok.inj hq).symm⟩
    | some s =>
      cases ha : s.assert asserter with
      | error _ =>
        simp only [hs, ha] at hq
        cases hq
      | ok checked =>
        simp only [hs, ha] at hq
        refine ⟨target, some checked, rfl, ?_, (Except.ok.inj hq).symm⟩
        change some <$> s.assert asserter = .ok (some checked)
        rw [ha]
        rfl

/-- The services that are looked at are those of the request and the global one, if they are loaded. -/
theorem Registry.mem_services_iff {r : Registry} {asserter : Option TokenAsserter} {now : ClockTime}
    {request : Request} {q : Inquiry} (hq : r.inquire asserter now request = .ok q) {s : LoadedService} :
    s ∈ q.services ↔ ∃ name, (name = request.service ∨ name = Service.globalName) ∧ r.service? name = some s := by
  obtain ⟨target, subject, htarget, -, rfl⟩ := of_inquire hq
  rw [List.mem_cons, Option.mem_toList]
  constructor
  · rintro (rfl | hglobal)
    · exact ⟨_, .inl rfl, htarget⟩
    · split at hglobal
      · cases hglobal
      · exact ⟨_, .inr rfl, hglobal⟩
  · rintro ⟨name, rfl | rfl, hname⟩
    · exact .inl (Option.some.inj (hname.symm.trans htarget))
    · by_cases hsame : request.service = Service.globalName
      · rw [← hsame, htarget] at hname
        exact .inl (Option.some.inj hname).symm
      · rw [if_neg hsame]
        exact .inr hname

theorem forall₂_toList {α β : Type} {R : α → β → Prop} {a : Option α} {b : Option β}
    (h : Option.Rel R a b) : List.Forall₂ R a.toList b.toList := by
  cases h with
  | none => exact .nil
  | some h => exact .cons h .nil

/-- A request is resolved alike in registries whose services are related by name. -/
theorem Registry.inquire_related {r r' : Registry} {R : LoadedService → LoadedService → Prop}
    (functions : r.functions = r'.functions) (services : ∀ name, Option.Rel R (r.service? name) (r'.service? name))
    (asserter : Option TokenAsserter) (now : ClockTime) (request : Request) :
    (∃ err, r.inquire asserter now request = .error err ∧ r'.inquire asserter now request = .error err) ∨
      ∃ q others, r.inquire asserter now request = .ok q ∧
        r'.inquire asserter now request = .ok { q with services := others } ∧
        q.functions = r.functions ∧ List.Forall₂ R q.services others := by
  have htarget := services request.service
  rw [inquire, inquire]
  cases hs : r.service? request.service with
  | none =>
    cases ht : r'.service? request.service with
    | none => exact .inl ⟨_, rfl, rfl⟩
    | some t =>
      rw [hs, ht] at htarget
      cases htarget
  | some s =>
    cases ht : r'.service? request.service with
    | none =>
      rw [hs, ht] at htarget
      cases htarget
    | some t =>
      rw [hs, ht] at htarget
      obtain ⟨htarget⟩ := htarget
      have hglobal : List.Forall₂ R (if request.service = Service.globalName then none else r.global?).toList
          (if request.service = Service.globalName then none else r'.global?).toList := by
        split
        · exact .nil
        · exact forall₂_toList (services Service.globalName)
      have hservices := List.Forall₂.cons htarget hglobal
      rw [← functions]
      cases hsubject : request.subject with
      | none => exact .inr ⟨_, _, rfl, rfl, rfl, hservices⟩
      | some subject =>
        cases hassert : subject.assert asserter with
        | error err =>
          refine .inl ⟨err, ?_, ?_⟩
          · simp only [hassert]
            rfl
          · simp only [hassert]
            rfl
        | ok checked =>
          simp only [hassert]
          exact .inr ⟨_, _, rfl, rfl, rfl, hservices⟩

namespace Registry.Keeps
variable {r : Registry} {c : Catalogue} {name : String}

/-- A live service is loaded. -/
theorem exists_service (h : r.Keeps c) (hname : name ∈ c.services) :
    ∃ s, r.service? name = some s := by
  obtain ⟨live, hlive⟩ := Dict.mem_iff.mp hname
  have hn := h.services name
  rw [hlive] at hn
  rw [service?]
  cases hs : r.services.get? name with
  | none =>
    rw [hs] at hn
    cases hn
  | some s => exact ⟨s, rfl⟩

/-- The services that are looked at keep those that count. -/
theorem forall₂_servicesFor (h : r.Keeps c) {target : LoadedService}
    (hs : r.service? name = some target) :
    List.Forall₂ (LoadedService.Keeps c.functions)
      (target :: (if name = Service.globalName then none else r.global?).toList)
      (c.servicesFor name) := by
  have htarget := forall₂_toList (h.services name)
  rw [← service?, hs] at htarget
  have hglobal : List.Forall₂ (LoadedService.Keeps c.functions)
      (if name = Service.globalName then none else r.global?).toList
      (if name = Service.globalName then [] else (c.services.get? Service.globalName).toList) := by
    by_cases hg : name = Service.globalName
    · rw [if_pos hg, if_pos hg]
      exact .nil
    · rw [if_neg hg, if_neg hg]
      exact forall₂_toList (h.services Service.globalName)
  exact List.rel_append htarget hglobal

/-- Every request for a live service by a subject that passes its check is resolved. -/
theorem inquire (h : r.Keeps c) {asserter : Option TokenAsserter} {request : Request}
    {subject : Option Subject} (now : ClockTime) (hservice : request.service ∈ c.services)
    (hsubject : request.subject.mapM (Subject.assert asserter) = .ok subject) :
    ∃ q, r.inquire asserter now request = .ok q ∧ q.Resolves c now request subject := by
  obtain ⟨target, htarget⟩ := h.exists_service hservice
  have hservices := h.forall₂_servicesFor htarget
  rw [Registry.inquire, htarget]
  cases hs : request.subject with
  | none =>
    rw [hs] at hsubject
    obtain rfl := Except.ok.inj hsubject
    exact ⟨_, rfl, hservices, h.functions, rfl, rfl, rfl, rfl⟩
  | some s =>
    rw [hs] at hsubject
    change some <$> s.assert asserter = .ok subject at hsubject
    cases ha : s.assert asserter with
    | error e =>
      rw [ha] at hsubject
      cases hsubject
    | ok checked =>
      rw [ha] at hsubject
      obtain rfl := Except.ok.inj hsubject
      simp only [ha]
      exact ⟨_, rfl, hservices, h.functions, rfl, rfl, rfl, rfl⟩

end Registry.Keeps
end Turnstile

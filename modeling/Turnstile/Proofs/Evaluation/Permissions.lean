import Turnstile.Proofs.Evaluation.Finding
import Turnstile.Proofs.Evaluation.Independence

/-! Decisions and reported permissions. A permission that is reported is granted by the decision on its resource
and actions; a permission on the resource of an allowed request is reported, unless a denial applies to it that
the decision does not see. -/
namespace Turnstile
variable {σ : Type} {answers : FunctionDefinition → List Json → Except Error Json}

/-- The expression is valid, and the index finds a resource that it matches. -/
def Permission.Legible (resource : String) (g : Permission) : Prop :=
  g.expression = "" ∨ expressionMatches? g.expression resource = some false ∨
    (expressionMatches? g.expression resource = some true ∧
      (ResourcePattern.classify g.expression).Covers resource g.expression)

/-- A legible denial is found for what it takes away. -/
theorem Permission.Legible.covers {resource : String} {g : Permission} (h : g.Legible resource)
    (named : resource ≠ "") (hdenies : g.deniesResource resource = true) :
    g.Covers resource ∧ g.coversResource resource = true := by
  rw [deniesResource, Bool.or_eq_true, Bool.or_eq_true, Bool.and_eq_true, decide_eq_true_eq] at hdenies
  rw [coversResource, Bool.or_eq_true, Bool.or_eq_true, Bool.and_eq_true, decide_eq_true_eq]
  rcases hdenies with (heverything | hsame) | ⟨hnamed, hmatches⟩
  · refine ⟨.inl ?_, .inl (.inl heverything)⟩
    rw [coversEverything, Bool.and_eq_true, String.isEmpty_iff, String.isEmpty_iff] at heverything
    exact heverything
  · exact ⟨.inr (.inl ⟨hsame ▸ named, hsame⟩), .inl (.inr hsame)⟩
  · have hexpression : g.expression ≠ "" := by
      intro hnone
      rw [hnone] at hnamed
      cases hnamed
    rcases h with hnone | hfalse | ⟨htrue, hcovers⟩
    · exact absurd hnone hexpression
    · rw [hfalse] at hmatches
      cases hmatches
    · exact ⟨.inr (.inr ⟨hexpression, hcovers⟩), .inr ⟨hnamed, expressionMatches_iff.mpr htrue⟩⟩

namespace Inquiry.Certain
variable {w : Surroundings σ} {q : Inquiry} {I : Session σ → Prop} {roles : NameSet}
  {truth : LoadedService → Policy → Bool} {presented : List String} {resource action : String}
  (h : q.Certain w I roles truth)
include h

/-- What is reported is granted by a policy that is found for it, and none that is found denies it. -/
theorem decided_of_reported {p : Permission} (hp : p ∈ reported (q.found truth presented none))
    (haction : p.allowsAction action = true) :
    (∃ granting ∈ q.found truth presented (some (p.resource, action)), granting.effect = .grant) ∧
      ∀ denying ∈ q.found truth presented (some (p.resource, action)), denying.effect ≠ .deny := by
  obtain ⟨⟨granting, hfound, hgrant, g, hg, hnamed, hsame, hallows⟩, hdenied⟩ :=
    granted_of_mem_reported hp haction
  constructor
  · refine ⟨granting, h.mem_found_some_iff.mpr ⟨hfound, ?_, ?_⟩, hgrant⟩
    · exact .inr ⟨g, hg, .inr (.inl ⟨hnamed, hsame⟩)⟩
    · exact Policy.coversRequest_of_mem hg (Permission.coversResource_of_eq hsame) hallows
  · intro denying hdenying hdeny
    obtain ⟨hdenying, -, hcovers⟩ := h.mem_found_some_iff.mp hdenying
    exact absurd hcovers (Bool.eq_false_iff.mp (hdenied denying hdenying hdeny))

/-- Where no policy that is found for a request denies it, what is granted on just its resource is reported: a
listed action if its denials are legible, and every action if no denial applies. -/
theorem exists_reported (named : resource ≠ "")
    (undenied : ∀ denying ∈ q.found truth presented (some (resource, action)), denying.effect ≠ .deny)
    {granting : Policy} (hgranting : granting ∈ q.found truth presented none) (hgrant : granting.effect = .grant)
    {g : Permission} (hg : g ∈ granting.permissions) (hresource : g.resource = resource)
    (hcase : (action ∈ g.actions ∧ ∀ denying ∈ q.found truth presented none, denying.effect = .deny →
        ∀ d ∈ denying.permissions, d.allowsAction action = true → d.Legible resource) ∨
      (g.actions = [] ∧ ∀ denying ∈ q.found truth presented none, denying.effect = .deny →
        ∀ d ∈ denying.permissions, d.deniesResource resource = false)) :
    ∃ p ∈ reported (q.found truth presented none), p.resource = resource ∧ p.allowsAction action = true := by
  have hunseen (denying : Policy) (hfound : denying ∈ q.found truth presented none)
      (hdeny : denying.effect = .deny) (hindexed : denying.Indexed resource) :
      denying.coversRequest resource action ≠ true := by
    intro hcovers
    exact undenied denying (h.mem_found_some_iff.mpr ⟨hfound, hindexed, hcovers⟩) hdeny
  have hblanket (denying : Policy) (hfound : denying ∈ q.found truth presented none)
      (hdeny : denying.effect = .deny) : denying.permissions ≠ [] := by
    intro hevery
    refine hunseen denying hfound hdeny (.inl hevery) ?_
    rw [Policy.coversRequest, hevery]
    rfl
  obtain rfl := hresource
  refine exists_mem_reported hgranting hgrant hg named hblanket (hcase.imp_left ?_)
  intro hlisted
  refine ⟨hlisted.1, fun denying hfound hdeny d hd hdenies => ?_⟩
  rw [← Bool.not_eq_true]
  intro hallows
  obtain ⟨hindexed, hcovers⟩ := (hlisted.2 denying hfound hdeny d hd hallows).covers named hdenies
  refine hunseen denying hfound hdeny (.inr ⟨d, hd, hindexed⟩) ?_
  exact Policy.coversRequest_of_mem hd hcovers hallows

end Inquiry.Certain

/-- A run keeps custom functions under their own names. -/
theorem Evaluator.named_after (e : Evaluator σ) (resolver : σ) (actions : List Action) :
    (e.after resolver actions).functions.Named := by
  induction actions using List.reverseRecOn with
  | nil => exact FunctionTable.named_builtins
  | append_singleton actions a ih =>
    rw [after, run_concat]
    cases a with
    | change m => exact Registry.named_change ih m
    | ask question now request =>
      obtain ⟨results, new, hask, -⟩ :=
        e.ask_spec (e.orderly_after resolver actions) question now request
      rw [act, hask]
      exact ih
    | publish =>
      rw [act, Registry.publishNext]
      split
      · rw [Registry.functions_applyUpdate]
        exact ih
      · exact ih

namespace Evaluator

/-- Where all conditions that are kept are fresh, functions of one name are one function. -/
theorem answerAlike_of_fresh (e : Evaluator σ) (earlier : σ) (actions : List Action)
    (fresh : (e.after earlier actions).Fresh) : AnswerAlike answers (e.after earlier actions).Uses :=
  fun d d' hd hd' => (e.named_after earlier actions).answerAlike d d' (fresh.defines hd) (fresh.defines hd')

variable {e : Evaluator σ} {r : Registry} {now : ClockTime} {request : Request} {q : Inquiry}

/-- All questions about a request find out the same, be it before or after each other. -/
theorem exists_certain (pure : e.resolve.IsPure answers) (orderly : r.Orderly)
    (alike : AnswerAlike answers r.Uses) (hq : r.inquire e.asserter now request = .ok q) (resolver : σ) :
    ∃ I roles truth, q.Certain ⟨e.resolve, now.seconds⟩ I roles truth ∧
      I { resolver, results := r.results } ∧
      ∀ question, ∃ t results updates, e.ask question now request (resolver, r) =
        (t, { r with results, updates }) ∧ I { resolver := t, results } := by
  let w : Surroundings σ := ⟨e.resolve, now.seconds⟩
  let times (t : Int) : Prop := t = now.seconds
  let value (d : FunctionDefinition) (args : List Json) : Except Error Json :=
    (d.call e.resolve now.seconds args (resolver, r.results)).1
  let I (s : Session σ) : Prop := Settled e.resolve r.Uses times value s.calls
  have timely : times w.now := rfl
  have huses (x : Inquiry) (hx : r.inquire e.asserter now request = .ok x) :
      (∀ service ∈ x.services, service.Orderly) ∧ ∀ d, x.Uses d → r.Uses d :=
    ⟨fun service hs => ((orderly.reads hx).services service hs).2, fun _ hd => (orderly.reads hx).uses hd⟩
  have hstart : I { resolver, results := r.results } := by
    intro d _ t ht args
    rw [ht]
    rfl
  refine ⟨I, _, _, q.certain (w := w) pure alike timely (huses q hq).1 (huses q hq).2 hstart, hstart,
    fun question => ?_⟩
  obtain ⟨t, ht, hask⟩ := ask_session (e := e) (s := (resolver, r)) hstart question
    (fun x hx => Inquiry.settled_roles (w := w) pure alike timely (huses x hx).1 (huses x hx).2)
    fun x hx => Inquiry.settled_matchedPolicies (w := w) pure alike timely (huses x hx).1 (huses x hx).2
  exact ⟨t.resolver, t.results, _, hask, ht⟩

section Certain
variable {I : Session σ → Prop} {roles : NameSet} {truth : LoadedService → Policy → Bool} {resolver : σ}
  {results : ResultCache} {updates : Option (List ConditionUpdate)}
  (hq : r.inquire e.asserter now request = .ok q) (h : q.Certain ⟨e.resolve, now.seconds⟩ I roles truth)
  (hs : I { resolver, results })
include hq h hs

theorem isAllowed_of_certain :
    let found := q.found truth (q.principalsWith roles) (some (request.resource, request.action))
    (e.isAllowed now request (resolver, { r with results, updates })).1 =
      .ok (Decision.combine (found.filter fun p => p.effect = .grant).length
        (found.filter fun p => p.effect = .deny).length) := by
  obtain ⟨target, subject, -, -, rfl⟩ := Registry.of_inquire hq
  have hdecide := h.decide_eq request hs
  have hallowed := isAllowed_of_inquire (e := e) (r := { r with results, updates }) hq resolver
  intro found
  rw [hallowed, hdecide]

theorem grantedPermissions_of_certain :
    (e.grantedPermissions now request (resolver, { r with results, updates })).1 =
      .ok (Inquiry.reported (q.found truth (q.principalsWith roles) none)) := by
  have hinquire : { r with results, updates }.inquire e.asserter now request = .ok q := hq
  have hpermissions := h.permissions_eq hs
  rw [grantedPermissions, answer, hinquire]
  exact congrArg Except.ok hpermissions

end Certain

/-- Reported permissions are granted. If a permission on the resource of a request covers its action, the request
is allowed, whether the permissions were asked for before or not. Conditions that are kept may be outdated, as long
as the functions that they call answer like those of the same name. -/
theorem isAllowed_of_granted (e : Evaluator σ) (pure : e.resolve.IsPure answers) (earlier : σ)
    (actions : List Action) (results : ResultCache) (updates : Option (List ConditionUpdate)) (resolver : σ)
    (now : ClockTime) (request : Request) (permissions : List Permission) (p : Permission) :
    let r := { e.after earlier actions with results, updates }
    AnswerAlike answers r.Uses →
      (e.grantedPermissions now request (resolver, r)).1 = .ok permissions → p ∈ permissions →
      p.resource = request.resource → p.allowsAction request.action = true →
      (e.isAllowed now request (resolver, r)).1 = .ok (.allow .grantPolicyFound) ∧
        (e.isAllowed now request (e.grantedPermissions now request (resolver, r)).2).1 =
          .ok (.allow .grantPolicyFound) := by
  intro r alike hgranted hp hresource haction
  have orderly : r.Orderly := e.orderly_after earlier actions
  cases hq : r.inquire e.asserter now request with
  | error err =>
    rw [grantedPermissions, answer, hq] at hgranted
    cases hgranted
  | ok q =>
    obtain ⟨I, roles, truth, h, hstart, hask⟩ := exists_certain pure orderly alike hq resolver
    obtain ⟨resolver', results', updates', hafter, hlater⟩ := hask .permissions
    have hreported : (e.grantedPermissions now request (resolver, r)).1 =
        .ok (Inquiry.reported (q.found truth (q.principalsWith roles) none)) :=
      grantedPermissions_of_certain hq h hstart
    obtain rfl := Except.ok.inj (hgranted.symm.trans hreported)
    have hdecision := Decision.combine_filter_eq_allow.mpr (h.decided_of_reported hp haction)
    rw [hresource] at hdecision
    refine ⟨?_, ?_⟩
    · rw [← hdecision]
      exact isAllowed_of_certain hq h hstart
    · change (e.isAllowed now request (e.ask .permissions now request (resolver, r))).1 = _
      rw [hafter, ← hdecision]
      exact isAllowed_of_certain hq h hlater

end Evaluator

/-- Each address answers calls with its own number. -/
def numbered : FunctionDefinition → List Json → Except Error Json :=
  fun d _ => .ok (.int (if d.url = "http://edition/1" then 1 else 2))

def numbering : Evaluator Unit where
  resolve d args s := (numbered d args, s)

theorem numbering_isPure : numbering.resolve.IsPure numbered := fun _ _ _ => rfl

/-- The function that tells the current edition, at one of two addresses. -/
def firstEdition : FunctionDefinition where
  name := "edition"
  url := "http://edition/1"

def secondEdition : FunctionDefinition where
  name := "edition"
  url := "http://edition/2"
  cachable := true

/-- The book may be read unless it is the first edition. Which edition it is counts for another book as well. -/
def editions : Service where
  name := "library"
  policies := [
    { id := "1", effect := .grant, permissions := [.onResource "book/2" []], condition := some "edition() == 2" },
    { id := "2", effect := .deny, condition := some "request_action == 'read' ? edition() == 1 : false" },
    { id := "3", effect := .grant, permissions := [.onResource "book/1" ["read"]] }]

/-- The second edition may be read, as the permissions say. -/
theorem isAllowed_of_granted_editions :
    let r := { numbering.after () [.change (.addFunction secondEdition), .change (.addService editions)] with
      results := {}, updates := none }
    (numbering.grantedPermissions ⟨0, 0⟩ reading ((), r)).1 =
        .ok [.onResource "book/2" [], .onResource "book/1" ["read"]] ∧
      (numbering.isAllowed ⟨0, 0⟩ reading ((), r)).1 = .ok (.allow .grantPolicyFound) ∧
      (numbering.isAllowed ⟨0, 0⟩ reading (numbering.grantedPermissions ⟨0, 0⟩ reading ((), r)).2).1 =
        .ok (.allow .grantPolicyFound) := by
  intro r
  let actions : List Action := [.change (.addFunction secondEdition), .change (.addService editions)]
  have hempty : (numbering.after () (actions.take 0)).Fresh := fun _ _ h => nomatch h
  have hfunction : (numbering.after () (actions.take 1)).Fresh := hempty.change (numbering.orderly_after () _) _
  have hfresh : (numbering.after () actions).Fresh := hfunction.change (numbering.orderly_after () _) _
  have halike : AnswerAlike numbered r.Uses := numbering.answerAlike_of_fresh () actions hfresh
  have hpermissions : (numbering.grantedPermissions ⟨0, 0⟩ reading ((), r)).1 =
      .ok [.onResource "book/2" [], .onResource "book/1" ["read"]] := by decide +kernel
  have hallowed := numbering.isAllowed_of_granted numbering_isPure () actions {} none () ⟨0, 0⟩ reading _
    (.onResource "book/1" ["read"]) halike hpermissions (by decide) rfl rfl
  exact ⟨hpermissions, hallowed⟩

/-- The denial, compiled anew for the first edition, waits while the function is replaced. -/
def reissue : List Action :=
  [.change (.addService editions),
    .change (.addFunction firstEdition),
    .ask .decision ⟨0, 0⟩ { reading with action := "lend" },
    .change (.addFunction secondEdition),
    .publish]

/-- The denial then asks for the first edition still, but finds the result for the other book if the permissions of
both are looked for. Reading is reported and denied, although every address answers alike at all times. -/
theorem not_isAllowed_reissue :
    numbering.resolve.IsPure numbered ∧
      let r := numbering.after () reissue
      (∃ permissions, (numbering.grantedPermissions ⟨0, 0⟩ reading ((), r)).1 = .ok permissions ∧
        ∃ p ∈ permissions, p.resource = reading.resource ∧ p.allowsAction reading.action = true) ∧
      (numbering.isAllowed ⟨0, 0⟩ reading ((), r)).1 = .ok (.deny .denyPolicyFound) := by
  refine ⟨numbering_isPure, ⟨[.onResource "book/2" [], .onResource "book/1" ["read"]], by decide +kernel, ?_⟩,
    by decide +kernel⟩
  exact ⟨.onResource "book/1" ["read"], by decide, rfl, by decide⟩

namespace Evaluator
variable {e : Evaluator σ} {r : Registry} {now : ClockTime} {request : Request} {q : Inquiry}

/-- The policy is live in the service of the request or in the global one, applies to those presented and holds. It
need not cover the resource. -/
structure Effective (e : Evaluator σ) (now : ClockTime) (request : Request) (subject : Option Subject)
    (roles : List String) (s : σ × Registry) (p : Policy) : Prop where
  live : ∃ name service, (name = request.service ∨ name = Service.globalName) ∧
    s.2.service? name = some service ∧ service.policies.get? p.id = some p
  addresses : p.Addresses ((subject.getD {}).effectivePrincipals ++ roles.map Role.principal)
  holds : (Rule.holds ⟨e.resolve, now.seconds⟩ s.2.functions (Attributes.ofRequest now subject request) p
    (s.1, s.2.results)).1 = true

/-- Where all conditions are fresh, the policies that are found are those that are in effect. -/
theorem mem_found_iff_effective {I : Session σ → Prop} {roles : NameSet}
    {truth : LoadedService → Policy → Bool} {resolver : σ} {subject : Option Subject} (orderly : r.Orderly)
    (fresh : r.Fresh) (hq : r.inquire e.asserter now request = .ok q)
    (asserted : request.subject.mapM (Subject.assert e.asserter) = .ok subject)
    (h : q.Certain ⟨e.resolve, now.seconds⟩ I roles truth) (hstart : I { resolver, results := r.results })
    {p : Policy} : p ∈ q.found truth (q.principalsWith roles) none ↔
      e.Effective now request subject roles.toList (resolver, r) p := by
  have hservices (service : LoadedService) := Registry.mem_services_iff hq (s := service)
  have hfresh (service : LoadedService) (hs : service ∈ q.services) : service.Fresh r.functions := by
    obtain ⟨name, -, hname⟩ := (hservices service).mp hs
    exact fresh name service hname
  have htruth (service : LoadedService) (hs : service ∈ q.services) (hp : service.policies.get? p.id = some p) :
      truth service p = (Rule.holds ⟨e.resolve, now.seconds⟩ q.functions q.attributes p
        (resolver, r.results)).1 := by
    have hfunctions := (orderly.reads hq).functions
    exact h.truth_eq hs (hfunctions ▸ hfresh service hs) hp hstart
  rw [h.mem_found_iff]
  obtain ⟨target, checked, -, hchecked, rfl⟩ := Registry.of_inquire hq
  obtain rfl := Except.ok.inj (hchecked.symm.trans asserted)
  constructor
  · rintro ⟨service, hs, hp, haddresses, hholds⟩
    obtain ⟨name, hname, hservice⟩ := (hservices service).mp hs
    exact ⟨⟨name, service, hname, hservice, hp⟩, haddresses, (htruth service hs hp).symm.trans hholds⟩
  · rintro ⟨⟨name, service, hname, hservice, hp⟩, haddresses, hholds⟩
    have hs := (hservices service).mpr ⟨name, hname, hservice⟩
    exact ⟨service, hs, hp, haddresses, (htruth service hs hp).trans hholds⟩

end Evaluator

/-- A book that Ann may read and lend. -/
def lendable : Policy where
  id := "1"
  effect := .grant
  permissions := [.onResource "book/1" ["read", "lend"]]
  principals := [["user:ann"]]
  condition := some "request_action == 'read'"

/-- A library with a book that Ann may read and lend, and with a denial. -/
def shelf (denied : Permission) : List Action :=
  [.change (.addService { name := "library" }),
    .change (.addPolicy "library" lendable),
    .change (.addPolicy "library" { id := "2", effect := .deny, permissions := [denied] })]

theorem unreachable_isPure : unreachable.resolve.IsPure fun d _ => .error (.customFunction d.name) :=
  fun _ _ _ => rfl

theorem fresh_shelf (denied : Permission) : (unreachable.after () (shelf denied)).Fresh := by
  let r (n : Nat) : Registry := unreachable.after () ((shelf denied).take n)
  have horderly (n : Nat) : (r n).Orderly := unreachable.orderly_after () _
  have h₀ : (r 0).Fresh := fun _ _ h => nomatch h
  have h₁ : (r 1).Fresh := h₀.change (horderly 0) _
  have h₂ : (r 2).Fresh := h₁.change (horderly 1) _
  exact h₂.change (horderly 2) _

private theorem effective_lendable {r : Registry} (functions : r.functions = .builtins)
    (results : r.results = {}) (live : (r.service? "library").bind (·.policies.get? "1") = some lendable) :
    unreachable.Effective ⟨0, 0⟩ reading reading.subject [] ((), r) lendable := by
  obtain ⟨service, hservice, hp⟩ := Option.bind_eq_some_iff.mp live
  refine ⟨⟨"library", service, .inl rfl, hservice, hp⟩, by decide +kernel, ?_⟩
  dsimp only
  rw [functions, results]
  decide +kernel

end Turnstile

import Turnstile.Proofs.Evaluation.Permissions

/-! What an allowed request rests upon: a live policy that grants, with a permission for the resource and the
action. A request that names no resource may rest upon a permission with an expression that does not match. -/
namespace Turnstile
variable {σ τ α β : Type}

/-- The permission is for the action, and for all resources, or for the one that it names, or for those that its
expression matches. -/
def Permission.Backs (resource action : String) (g : Permission) : Prop :=
  g.allowsAction action = true ∧
    ((g.resource = "" ∧ g.expression = "") ∨ (g.resource ≠ "" ∧ g.resource = resource) ∨
    (g.expression ≠ "" ∧ expressionMatches? g.expression resource = some true))

instance (resource action : String) (g : Permission) : Decidable (g.Backs resource action) :=
  inferInstanceAs (Decidable (_ ∧ _))

/-- The permission is for the action, and names an expression only. -/
def Permission.Unnamed (action : String) (g : Permission) : Prop :=
  g.allowsAction action = true ∧ g.resource = "" ∧ g.expression ≠ ""

/-- The policy has no permissions at all, or one that is for the request. -/
def Policy.Backs (resource action : String) (p : Policy) : Prop :=
  p.permissions = [] ∨ ∃ g ∈ p.permissions, g.Backs resource action

instance (resource action : String) (p : Policy) : Decidable (p.Backs resource action) :=
  inferInstanceAs (Decidable (_ ∨ _))

/-- The comparison of resources does not ask whether any is named. -/
theorem Permission.backs_or_unnamed {resource action : String} {g : Permission}
    (hresource : g.coversResource resource = true) (haction : g.allowsAction action = true) :
    g.Backs resource action ∨ resource = "" ∧ g.Unnamed action := by
  rw [coversResource, coversEverything, Bool.or_eq_true, Bool.or_eq_true, Bool.and_eq_true, Bool.and_eq_true,
    String.isEmpty_iff, String.isEmpty_iff, decide_eq_true_eq, Bool.not_eq_true', expressionMatches_iff] at hresource
  rcases hresource with (heverything | hsame) | ⟨hnamed, hmatches⟩
  · exact .inl ⟨haction, .inl heverything⟩
  · by_cases hresource : g.resource = ""
    · by_cases hexpression : g.expression = ""
      · exact .inl ⟨haction, .inl ⟨hresource, hexpression⟩⟩
      · exact .inr ⟨hsame ▸ hresource, haction, hresource, hexpression⟩
    · exact .inl ⟨haction, .inr (.inl ⟨hresource, hsame⟩)⟩
  · have hexpression : g.expression ≠ "" := by
      intro hnone
      rw [hnone] at hnamed
      cases hnamed
    exact .inl ⟨haction, .inr (.inr ⟨hexpression, hmatches⟩)⟩

theorem Policy.backs_or_unnamed {resource action : String} {p : Policy} (h : p.coversRequest resource action = true) :
    p.Backs resource action ∨ resource = "" ∧ ∃ g ∈ p.permissions, g.Unnamed action := by
  rw [coversRequest, Bool.or_eq_true, List.isEmpty_iff, List.any_eq_true] at h
  rcases h with hnone | ⟨g, hg, hcovers⟩
  · exact .inl (.inl hnone)
  · rw [Bool.and_eq_true] at hcovers
    rcases Permission.backs_or_unnamed hcovers.1 hcovers.2 with hbacks | ⟨hresource, hunnamed⟩
    · exact .inl (.inr ⟨g, hg, hbacks⟩)
    · exact .inr ⟨hresource, g, hg, hunnamed⟩

/-- What every step makes of a result holds in the end, whatever the states are. -/
private theorem foldlM_result {P : β → Prop} {f : β → α → StateM τ β} {l : List α}
    (h : ∀ b, ∀ a ∈ l, ∀ s, P b → P (f b a s).1) {b : β} (hb : P b) (s : τ) : P (l.foldlM f b s).1 := by
  induction l generalizing b s with
  | nil => exact hb
  | cons a l ih =>
    exact ih (fun b a ha => h b a (List.mem_cons_of_mem _ ha)) (h b a List.mem_cons_self s hb) (f b a s).2

namespace Inquiry
variable {q : Inquiry} {w : Surroundings σ} {s : Session σ} {p : Policy}

/-- Only candidates are sorted, by their effect. -/
theorem of_mem_granted_matchedPolicies {presented : List String} {request : Option (String × String)}
    (h : p ∈ (q.matchedPolicies w presented request s).1.granted) :
    p.effect = .grant ∧ ∃ service ∈ q.services, p ∈ candidates service presented request := by
  -- Kept by both folds, the one over services and the one over the candidates in each of them.
  let P (m : Matched) : Prop :=
    ∀ p ∈ m.granted, p.effect = .grant ∧ ∃ service ∈ q.services, p ∈ candidates service presented request
  have hadd {m : Matched} {service : LoadedService} (hservice : service ∈ q.services) {p : Policy}
      (hp : p ∈ candidates service presented request) (held : Bool) (hm : P m) : P (m.add p held) := by
    rw [Matched.add]
    cases held with
    | false => exact hm
    | true =>
      cases heffect : p.effect with
      | deny => exact hm
      | grant =>
        intro p' hp'
        rcases List.mem_append.mp hp' with hp' | hp'
        · exact hm p' hp'
        · obtain rfl := List.mem_singleton.mp hp'
          exact ⟨heffect, service, hservice, hp⟩
  have hall : P (q.matchedPolicies w presented request s).1 := by
    refine foldlM_result (P := P) (fun m service hservice s hm => ?_) (fun _ hp => (List.not_mem_nil hp).elim) s
    exact foldlM_result (P := P) (fun m p hp s hm => hadd hservice hp _ hm) hm s
  exact hall p h

/-- Nothing is allowed without a policy that grants it. -/
theorem exists_granted_of_decide {request : Request} (h : (q.decide w request s).1.allowed = true) :
    ∃ presented p, p.effect = .grant ∧
      ∃ service ∈ q.services, p ∈ candidates service presented (some (q.resource, q.action)) := by
  rw [decide] at h
  by_cases hnone : q.hasNoPolicies = true
  · rw [if_pos hnone] at h
    cases h
  · rw [if_neg hnone] at h
    let presented := q.principalsWith (q.roles w s).1
    let m := (q.matchedPolicies w presented (some (q.resource, q.action)) (q.roles w s).2).1
    have hallowed : (Decision.combine m.granted.length m.denied.length).allowed = true := h
    have hgranted : m.granted ≠ [] := by
      intro hnil
      rw [hnil, Decision.combine] at hallowed
      split at hallowed
      · cases hallowed
      · cases hallowed
    obtain ⟨p, hp⟩ := List.exists_mem_of_ne_nil _ hgranted
    exact ⟨presented, p, of_mem_granted_matchedPolicies hp⟩

end Inquiry

/-- A request that is allowed is backed by a live policy that grants, of its service or of the global one. If it
names no resource, then that policy may have just a permission for its action with an expression, and be found
because of another permission. -/
theorem Evaluator.backed_of_isAllowed (e : Evaluator σ) (earlier : σ) (actions : List Action) (results : ResultCache)
    (updates : Option (List ConditionUpdate)) (resolver : σ) (now : ClockTime) (request : Request)
    (decision : Decision) :
    let r := { e.after earlier actions with results, updates }
    (e.isAllowed now request (resolver, r)).1 = .ok decision → decision.allowed = true →
      ∃ name service p, (name = request.service ∨ name = Service.globalName) ∧ r.service? name = some service ∧
        service.policies.get? p.id = some p ∧ p.effect = .grant ∧
        (p.Backs request.resource request.action ∨
          request.resource = "" ∧ p.Indexed "" ∧ ∃ g ∈ p.permissions, g.Unnamed request.action) := by
  intro r hallowed hdecision
  have orderly : r.Orderly := e.orderly_after earlier actions
  cases hq : r.inquire e.asserter now request with
  | error err =>
    have hfailed : (e.isAllowed now request (resolver, r)).1 = .error err := by
      change Except.map _ (e.answer now request (fun w q => q.decide w request) (resolver, r)).1 = _
      rw [answer, hq]
      rfl
    cases hallowed.symm.trans hfailed
  | ok q =>
    obtain rfl := Except.ok.inj (hallowed.symm.trans (isAllowed_of_inquire hq resolver))
    obtain ⟨presented, p, hgrant, service, hservice, hp⟩ := Inquiry.exists_granted_of_decide hdecision
    have hrequest : q.resource = request.resource ∧ q.action = request.action := by
      obtain ⟨_, _, -, -, rfl⟩ := Registry.of_inquire hq
      exact ⟨rfl, rfl⟩
    rw [hrequest.1, hrequest.2] at hp
    obtain ⟨name, hname, hloaded⟩ := (Registry.mem_services_iff hq).mp hservice
    obtain ⟨hfound, hindexed, hcovers⟩ :=
      (Inquiry.mem_candidates_some_iff (orderly name service hloaded).2.policies.sound).mp hp
    obtain ⟨hlive, -⟩ := (Inquiry.mem_candidates_iff (orderly name service hloaded).2.policies.sound).mp hfound
    refine ⟨name, service, p, hname, hloaded, hlive, hgrant, (Policy.backs_or_unnamed hcovers).imp_right ?_⟩
    rintro ⟨hresource, hunnamed⟩
    exact ⟨hresource, hresource ▸ hindexed, hunnamed⟩

/-- What Ann reads is on the shelf for her. -/
theorem backed_of_isAllowed_shelf :
    let r := { unreachable.after () (shelf (.onExpression "book/.*" ["lend"])) with results := {}, updates := none }
    (unreachable.isAllowed ⟨0, 0⟩ reading ((), r)).1 = .ok (.allow .grantPolicyFound) ∧
      ∃ name service p, (name = reading.service ∨ name = Service.globalName) ∧ r.service? name = some service ∧
        service.policies.get? p.id = some p ∧ p.effect = .grant ∧ p.Backs reading.resource reading.action := by
  intro r
  have hallowed : (unreachable.isAllowed ⟨0, 0⟩ reading ((), r)).1 = .ok (.allow .grantPolicyFound) := by
    decide +kernel
  obtain ⟨name, service, p, hname, hloaded, hlive, hgrant, hbacks⟩ :=
    unreachable.backed_of_isAllowed () _ {} none () ⟨0, 0⟩ reading _ hallowed rfl
  have hnamed : reading.resource ≠ "" := by decide
  exact ⟨hallowed, name, service, p, hname, hloaded, hlive, hgrant, hbacks.resolve_right fun h => hnamed h.1⟩

/-- Books may be read by everybody, and everything may be audited. -/
def audited : Policy where
  id := "1"
  effect := .grant
  permissions := [.onExpression "book/.*" ["read"], { actions := ["audit"] }]

/-- To read nothing in particular is allowed, although no permission for reading is for it. -/
theorem not_backed_of_isAllowed :
    let actions : List Action := [.change (.addService { name := "library", policies := [audited] })]
    let r := unreachable.after () actions
    let request : Request := { service := "library", action := "read" }
    (unreachable.isAllowed ⟨0, 0⟩ request ((), r)).1 = .ok (.allow .grantPolicyFound) ∧
      ∀ name service p, (name = request.service ∨ name = Service.globalName) → r.service? name = some service →
        service.policies.get? p.id = some p → ¬ p.Backs request.resource request.action := by
  intro actions r request
  refine ⟨by decide +kernel, fun name service p hname hloaded hlive => ?_⟩
  have hrules : (r.service? "library").map (·.policies.entries.values) = some [audited] := by decide +kernel
  have hglobal : r.service? Service.globalName = none := by decide +kernel
  rcases hname with rfl | rfl
  · obtain ⟨found, hfound, hvalues⟩ := Option.map_eq_some_iff.mp hrules
    obtain rfl := Option.some.inj (hloaded.symm.trans hfound)
    have hlisted := Dict.mem_values.mpr ⟨p.id, hlive⟩
    rw [hvalues] at hlisted
    obtain rfl := List.mem_singleton.mp hlisted
    decide +kernel
  · cases hglobal.symm.trans hloaded

end Turnstile

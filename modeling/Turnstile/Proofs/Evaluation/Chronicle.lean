import Turnstile.Proofs.Evaluation.Publication
import Turnstile.Proofs.Evaluation.Verdict
import Turnstile.Proofs.History
import Turnstile.Proofs.Role.Rounds

/-! What a diagnosis tells about role policies. A resolution asks in rounds, and what every round finds out is
noted: a role policy that has not been applied is tried again, and noted again, in each round that leads to it. -/
namespace Turnstile
variable {σ : Type}

/-- Something is known of a result only if there is one. -/
theorem exists_of_map_eq_ok {ε α β : Type} {x : Except ε α} {f : α → β} {b : β} (h : x.map f = .ok b) :
    ∃ a, x = .ok a ∧ f a = b := by
  cases x with
  | error _ => cases h
  | ok a => exact ⟨a, rfl, Except.ok.inj h⟩

/-- A round of a resolution: whom it asks about, and what it finds out. -/
structure RoleRound where
  asked : List String
  verdicts : List (Verdict RolePolicy)

namespace RoleRound

/-- Some rounds have applied a policy of the identifier: one that held, and it grants, or the first round met it. -/
def Applied : List RoleRound → String → Prop
  | [], _ => False
  | first :: later, id => (∃ v ∈ first.verdicts, v.held = true ∧ v.rule.id = id) ∨
      ∃ round ∈ later, ∃ v ∈ round.verdicts, (v.held = true ∧ v.rule.effect = .grant) ∧ v.rule.id = id

/-- A round that asks about somebody finds out once about each live role policy that concerns the resource, names
nobody or somebody it asks about, and has not been applied. A round that asks about nobody finds out nothing. -/
structure Follows (q : Inquiry) (before : List RoleRound) (round : RoleRound) : Prop where
  once : (round.verdicts.map Verdict.key).Nodup
  tried : ∀ service p, (∃ v ∈ round.verdicts, v.service = service ∧ v.rule = p) ↔ service ∈ q.services ∧
    round.asked ≠ [] ∧ (service.rolePolicies.get? p.id = some p ∧ p.Concerns q.resource) ∧ ¬ Applied before p.id ∧
      p.IsDirect round.asked

variable {before rounds : List RoleRound} {round : RoleRound} {id : String}

theorem applied_singleton_iff : Applied [round] id ↔ ∃ v ∈ round.verdicts, v.held = true ∧ v.rule.id = id := by
  simp [Applied]

theorem applied_concat_iff (h : rounds ≠ []) : Applied (rounds ++ [round]) id ↔ Applied rounds id ∨
    ∃ v ∈ round.verdicts, (v.held = true ∧ v.rule.effect = .grant) ∧ v.rule.id = id := by
  cases rounds with
  | nil => exact absurd rfl h
  | cons first later =>
    rw [List.cons_append, Applied, Applied, or_assoc]
    simp only [List.mem_append, List.mem_singleton, or_and_right, exists_or, exists_eq_left]

/-- What a round applies stays applied. -/
theorem applied_of_mem {v : Verdict RolePolicy} (hv : v ∈ round.verdicts) (held : v.held = true)
    (h : v.rule.effect = .grant ∨ before = []) (after : List RoleRound) :
    Applied (before ++ round :: after) v.rule.id := by
  cases before with
  | nil => exact .inl ⟨v, hv, held, rfl⟩
  | cons first later =>
    have hgrant := h.resolve_right (List.cons_ne_nil _ _)
    exact .inr ⟨round, List.mem_append_right _ List.mem_cons_self, v, hv, ⟨held, hgrant⟩, rfl⟩

end RoleRound
open RoleRound

/-- Each of some rounds follows those before. -/
def Chronicle (q : Inquiry) (rounds : List RoleRound) : Prop :=
  ∀ before round after, rounds = before ++ round :: after → round.Follows q before

namespace Chronicle
variable {q : Inquiry} {rounds : List RoleRound} {round : RoleRound}

theorem concat (h : Chronicle q rounds) (hround : round.Follows q rounds) : Chronicle q (rounds ++ [round]) := by
  intro before later after heq
  rcases concat_eq_append_cons_iff.mp heq with ⟨rfl, rfl, -⟩ | ⟨after, -, hbefore⟩
  · exact hround
  · exact h before later after hbefore

/-- A role policy that is applied is not met again. -/
theorem ne_of_applied (h : Chronicle q rounds) {before after : List RoleRound}
    (hrounds : rounds = before ++ round :: after) {v : Verdict RolePolicy} (hv : v ∈ round.verdicts)
    (held : v.held = true) (happlied : v.rule.effect = .grant ∨ before = []) :
    ∀ later ∈ after, ∀ v' ∈ later.verdicts, v'.rule.id ≠ v.rule.id := by
  intro later hlater v' hv' hid
  obtain ⟨between, rest, rfl⟩ := List.append_of_mem hlater
  have hfollows : later.Follows q (before ++ round :: between) := by
    refine h _ later rest ?_
    rw [hrounds, List.append_assoc, List.cons_append]
  obtain ⟨-, -, -, hnew, -⟩ := (hfollows.tried v'.service v'.rule).mp ⟨v', hv', rfl, rfl⟩
  exact hnew (hid ▸ applied_of_mem hv held happlied between)

end Chronicle

namespace Inquiry
variable {w : Surroundings σ} {q : Inquiry} {rounds : List RoleRound} {s : RoleResolution} {t : Session σ}

/-- While roles are resolved, the rounds so far are noted, and what they have applied has been seen. -/
structure Told (q : Inquiry) (rounds : List RoleRound) (s : RoleResolution) (t : Session σ) : Prop where
  chronicle : Chronicle q rounds
  seen : ∀ id, id ∈ s.seen ↔ Applied rounds id
  noted : t.rolePolicies = rounds.flatMap (·.verdicts.map Verdict.entry)

/-- The next round. -/
def round (w : Surroundings σ) (q : Inquiry) (asked : List String) (s : RoleResolution) (t : Session σ) : RoleRound :=
  ⟨asked, (q.tryRolePolicies w asked s.seen t).1⟩

/-- What held in a round is answered by effect. -/
theorem mem_answer_iff (asked : List String) (p : RolePolicy) :
    let answer := ((q.roleSource w).query asked s.seen t).1
    let held (effect : Effect) :=
      ∃ v ∈ (q.round w asked s t).verdicts, (v.held = true ∧ v.rule.effect = effect) ∧ v.rule = p
    (p ∈ answer.granted ↔ held .grant) ∧ (p ∈ answer.denied ↔ held .deny) := by
  intro answer held
  have hmem (effect : Effect) :
      p ∈ (Verdict.holding (q.round w asked s t).verdicts).filter (·.effect = effect) ↔ held effect := by
    rw [List.mem_filter, Verdict.mem_holding_iff, decide_eq_true_eq]
    constructor
    · rintro ⟨⟨v, hv, hheld, rfl⟩, heffect⟩
      exact ⟨v, hv, ⟨hheld, heffect⟩, rfl⟩
    · rintro ⟨v, hv, ⟨hheld, heffect⟩, rfl⟩
      exact ⟨⟨v, hv, hheld, rfl⟩, heffect⟩
  have hanswer : answer = (Verdict.holding (q.round w asked s t).verdicts).foldl MatchedRolePolicies.put {} := by
    dsimp only [answer]
    rw [query_eq_tryRolePolicies]
    rfl
  rw [hanswer, MatchedRolePolicies.foldl_put]
  exact ⟨hmem .grant, hmem .deny⟩

section Rounds
variable (orderly : ∀ service ∈ q.services, service.Orderly) (names : (q.services.map (·.name)).Nodup)
include orderly names

/-- A query goes on with the chronicle and notes what it finds out. -/
theorem Told.query (h : q.Told rounds s t) (asked : List String) :
    Chronicle q (rounds ++ [q.round w asked s t]) ∧ ((q.roleSource w).query asked s.seen t).2.rolePolicies =
      (rounds ++ [q.round w asked s t]).flatMap (·.verdicts.map Verdict.entry) := by
  have hsound (service : LoadedService) (hs : service ∈ q.services) := (orderly service hs).rolePolicies.sound
  constructor
  · refine h.chronicle.concat ⟨?_, fun service p => ?_⟩
    · refine Verdict.nodup_keys names (fun service hs => ?_) map_origin_tryRolePolicies
      exact (hsound service hs).nodup_related asked (some q.resource) _
    · refine (Verdict.exists_mem_iff map_origin_tryRolePolicies).trans (and_congr_right fun hs => ?_)
      rw [mem_roleCandidates_iff (hsound service hs), h.seen]
      exact Iff.rfl
  · have hrun : ((q.roleSource w).query asked s.seen t).2 = (q.tryRolePolicies w asked s.seen t).2 := by
      rw [query_eq_tryRolePolicies]
      rfl
    rw [hrun, rolePolicies_tryRolePolicies, h.noted, List.flatMap_append, List.flatMap_singleton]
    rfl

/-- The first round applies what holds. -/
theorem Told.first (h : q.Told [] s t) (asked : List String) :
    let answer := (q.roleSource w).query asked s.seen t
    q.Told [q.round w asked s t] ((s.applyDenies answer.1.denied).applyGrants answer.1.granted).1 answer.2 := by
  intro answer
  obtain ⟨hchronicle, hnoted⟩ := h.query (w := w) orderly names asked
  refine ⟨hchronicle, fun id => ?_, hnoted⟩
  have hnone : id ∉ s.seen := fun hid => (h.seen id).mp hid
  rw [RoleResolution.mem_seen_applyGrants, RoleResolution.mem_seen_applyDenies, applied_singleton_iff]
  simp only [answer, mem_answer_iff, hnone, false_or]
  constructor
  · rintro (⟨_, ⟨v, hv, hheld, rfl⟩, hid⟩ | ⟨_, ⟨v, hv, hheld, rfl⟩, hid⟩)
    · exact ⟨v, hv, hheld.1, hid⟩
    · exact ⟨v, hv, hheld.1, hid⟩
  · rintro ⟨v, hv, hheld, hid⟩
    cases heffect : v.rule.effect with
    | grant => exact .inr ⟨v.rule, ⟨v, hv, ⟨hheld, heffect⟩, rfl⟩, hid⟩
    | deny => exact .inl ⟨v.rule, ⟨v, hv, ⟨hheld, heffect⟩, rfl⟩, hid⟩

/-- Later rounds apply the grants that hold. -/
theorem Told.next (h : q.Told rounds s t) (begun : rounds ≠ []) (asked : List String) :
    let answer := (q.roleSource w).query asked s.seen t
    q.Told (rounds ++ [q.round w asked s t]) (s.applyGrants answer.1.granted).1 answer.2 := by
  intro answer
  obtain ⟨hchronicle, hnoted⟩ := h.query (w := w) orderly names asked
  refine ⟨hchronicle, fun id => ?_, hnoted⟩
  rw [RoleResolution.mem_seen_applyGrants, applied_concat_iff begun, h.seen]
  refine or_congr_right ?_
  simp only [answer, mem_answer_iff]
  constructor
  · rintro ⟨_, ⟨v, hv, hheld, rfl⟩, hid⟩
    exact ⟨v, hv, hheld, hid⟩
  · rintro ⟨v, hv, hheld, hid⟩
    exact ⟨v.rule, ⟨v, hv, hheld, rfl⟩, hid⟩

/-- While grants spread, the rounds are those that a record of the queries shows. -/
theorem Told.expand (h : q.Told rounds s t) (begun : rounds ≠ []) (n : Nat) (fresh : List String)
    (log : List (List String)) :
    let run := s.expand (q.roleSource w) n fresh t
    ∃ more, q.Told (rounds ++ more) run.1 run.2 ∧ s.expand (q.roleSource w).recording n fresh (t, log) =
      (run.1, run.2, log ++ more.map (·.asked)) := by
  induction n generalizing rounds s t fresh log with
  | zero => exact ⟨[], by rwa [List.append_nil], by rw [List.map_nil, List.append_nil]; rfl⟩
  | succ n ih =>
    cases fresh with
    | nil => exact ⟨[], by rwa [List.append_nil], by rw [List.map_nil, List.append_nil]; rfl⟩
    | cons role fresh =>
      let asked := (role :: fresh).map Role.principal
      have hnext := h.next (w := w) orderly names begun asked
      obtain ⟨more, htold, hlog⟩ := ih hnext (List.append_ne_nil_of_right_ne_nil _ (List.cons_ne_nil _ _))
        (s.applyGrants ((q.roleSource w).query asked s.seen t).1.granted).2 (log ++ [asked])
      refine ⟨q.round w asked s t :: more, ?_, ?_⟩
      · rw [List.append_cons]
        exact htold
      · rw [List.map_cons, List.append_cons]
        exact hlog

/-- A resolution notes its rounds, one for each query. -/
theorem exists_chronicle (start : Session σ) (fresh : start.rolePolicies = []) :
    ∃ rounds, Chronicle q rounds ∧
      rounds.map (·.asked) = ((q.roleSource w).recording.resolve q.principals (start, [])).2.2 ∧
      (q.roles w start).2.rolePolicies = rounds.flatMap (·.verdicts.map Verdict.entry) := by
  let source := q.roleSource w
  let s₀ := RoleResolution.start q.principals
  have hstart : q.Told [] s₀ start := by
    refine ⟨fun before round after h => ?_, fun id => ?_, fresh⟩
    · exact absurd h (List.append_ne_nil_of_right_ne_nil _ (List.cons_ne_nil _ _)).symm
    · exact iff_of_false (Dict.not_mem_empty id) fun h => h
  let direct := source.query q.principals s₀.seen start
  let first := (s₀.applyDenies direct.1.denied).applyGrants direct.1.granted
  have hfirst := hstart.first (w := w) orderly names q.principals
  obtain ⟨more, htold, hlog⟩ := hfirst.expand (w := w) orderly names (List.cons_ne_nil _ _) (source.size + 1) first.2
    [q.principals]
  let last := first.1.expand source (source.size + 1) first.2 direct.2
  obtain ⟨hchronicle, hnoted⟩ := htold.query (w := w) orderly names (last.1.granted.toList.map Role.principal)
  refine ⟨_, hchronicle, ?_, hnoted⟩
  have hrun : (source.recording.resolve q.principals (start, [])).2.2 =
      let e := first.1.expand source.recording (source.size + 1) first.2 (direct.2, [q.principals])
      e.2.2 ++ [e.1.granted.toList.map Role.principal] := rfl
  rw [hrun]
  dsimp only
  rw [hlog, List.map_append, List.map_append]
  rfl

end Rounds

/-- Where there are policies, a diagnosis is put together from the roles and the policies that match. -/
theorem decide_of_policies (hsome : q.hasNoPolicies = false) (request : Request) : (q.decide w request t).1 =
    let roles := q.roles w t
    let m := q.matchedPolicies w (q.principalsWith roles.1) (some (q.resource, q.action)) roles.2
    let decision := Decision.combine m.1.granted.length m.1.denied.length
    { request := { request with subject := q.subject }
      attributes := q.attributes
      allowed := decision.allowed
      reason := decision.reason
      grantedRoles := roles.1.toList
      rolePolicies := m.2.rolePolicies
      policies := m.1.failed.map (DiagnosedPolicy.ofPolicy · .conditionFailed (some false)) ++
        Diagnosis.matched m.1.granted m.1.denied } := by
  rw [decide, hsome]
  rfl

/-- To sort policies notes nothing about role policies. -/
theorem rolePolicies_decide (request : Request) (hsome : q.hasNoPolicies = false) :
    (q.decide w request t).1.rolePolicies = (q.roles w t).2.rolePolicies := by
  have hkept : Preserves (fun u : Session σ => u.rolePolicies = (q.roles w t).2.rolePolicies)
      (q.matchedPolicies w (q.principalsWith (q.roles w t).1) (some (q.resource, q.action))) :=
    preserves_matchedPolicies fun service _ p _ u hu => (rolePolicies_holds ..).trans hu
  rw [decide_of_policies hsome]
  exact hkept _ rfl

end Inquiry

namespace Evaluator

/-- There is a diagnosis only of an inquiry. -/
theorem exists_of_diagnose {e : Evaluator σ} {r : Registry} {now : ClockTime} {request : Request} {resolver : σ}
    {d : Diagnosis} (h : (e.diagnose now request (resolver, r)).1 = .ok d) :
    ∃ q, r.inquire e.asserter now request = .ok q ∧
      d = (q.decide ⟨e.resolve, now.seconds⟩ request { resolver, results := r.results }).1 := by
  rw [diagnose, answer] at h
  cases hq : r.inquire e.asserter now request with
  | error err =>
    rw [hq] at h
    cases h
  | ok q =>
    rw [hq] at h
    exact ⟨q, rfl, (Except.ok.inj h).symm⟩

/-- What a diagnosis tells about role policies is what the queries of the resolution find out, one after the other. A
query about somebody finds out once about every live role policy of the services that concerns the resource, names
nobody or somebody it asks about, and has not been applied; a query about nobody finds out nothing. What held is
applied, and not met again, if it grants or the first query met it. -/
theorem rolePolicies_of_diagnose (e : Evaluator σ) (earlier : σ) (actions : List Action) (results : ResultCache)
    (updates : Option (List ConditionUpdate)) (resolver : σ) (now : ClockTime) (request : Request) (d : Diagnosis) :
    let r := { e.after earlier actions with results, updates }
    (e.diagnose now request (resolver, r)).1 = .ok d →
      ∃ q, r.inquire e.asserter now request = .ok q ∧ (q.hasNoPolicies = true ∧ d.rolePolicies = [] ∨
        ∃ rounds : List RoleRound, rounds.map (·.asked) = ((q.roleSource ⟨e.resolve, now.seconds⟩).recording.resolve
            q.principals ({ resolver, results }, [])).2.2 ∧
          d.rolePolicies = rounds.flatMap (·.verdicts.map Verdict.entry) ∧ Chronicle q rounds ∧
          ∀ before round after, rounds = before ++ round :: after → ∀ v ∈ round.verdicts, v.held = true →
            v.rule.effect = .grant ∨ before = [] →
              ∀ later ∈ after, ∀ v' ∈ later.verdicts, v'.rule.id ≠ v.rule.id) := by
  intro r hd
  have orderly : r.Orderly := e.orderly_after earlier actions
  obtain ⟨q, hq, rfl⟩ := exists_of_diagnose hd
  refine ⟨q, hq, ?_⟩
  cases hnone : q.hasNoPolicies with
  | true =>
    refine .inl ⟨rfl, ?_⟩
    rw [Inquiry.decide, hnone]
    rfl
  | false =>
    have hservices (service : LoadedService) (hs : service ∈ q.services) := ((orderly.reads hq).services service hs).2
    obtain ⟨rounds, hchronicle, hasked, hnoted⟩ := Inquiry.exists_chronicle (w := ⟨e.resolve, now.seconds⟩) hservices
      (Registry.nodup_services orderly hq) { resolver, results := r.results } rfl
    refine .inr ⟨rounds, hasked, (Inquiry.rolePolicies_decide request hnone).trans hnoted, hchronicle, ?_⟩
    exact fun before round after hrounds v hv held happlied => hchronicle.ne_of_applied hrounds hv held happlied

end Evaluator

/-- Ann is a reader, and readers do not lend. -/
def readers : Service where
  name := "library"
  policies := [{ id := "1", effect := .grant, principals := [["role:reader"]] }]
  rolePolicies := [
    { id := "1", effect := .grant, roles := ["reader"], principals := ["user:ann"] },
    { id := "2", effect := .grant, roles := ["lender"], condition := some "request_action == 'lend'" },
    { id := "3", effect := .deny, roles := ["lender"], principals := ["role:reader"] }]

/-- Three queries are made for Ann. -/
theorem rolePolicies_of_diagnose_readers :
    let r := { unreachable.after () [.change (.addService readers)] with results := {}, updates := none }
    ∃ (d : Diagnosis) (rounds : List RoleRound), (unreachable.diagnose ⟨0, 0⟩ reading ((), r)).1 = .ok d ∧
      rounds.map (·.asked) =
        [["role:everyone_role", "user:ann", "role:authenticated_role"], ["role:reader"], ["role:reader"]] ∧
      d.rolePolicies = rounds.flatMap (·.verdicts.map Verdict.entry) ∧ d.rolePolicies.length = 6 := by
  intro r
  let start : Session Unit := { resolver := (), results := {} }
  have hsome : (r.inquire none ⟨0, 0⟩ reading).map (fun q => (q.hasNoPolicies,
      ((q.roleSource ⟨unreachable.resolve, 0⟩).recording.resolve q.principals (start, [])).2.2)) = .ok (false,
        [["role:everyone_role", "user:ann", "role:authenticated_role"], ["role:reader"], ["role:reader"]]) := by
    decide +kernel
  have hlength : (unreachable.diagnose ⟨0, 0⟩ reading ((), r)).1.map (·.rolePolicies.length) = .ok 6 := by
    decide +kernel
  obtain ⟨d, hd, hlength⟩ := exists_of_map_eq_ok hlength
  obtain ⟨q, hq, hcase⟩ := unreachable.rolePolicies_of_diagnose () _ {} none () ⟨0, 0⟩ reading d hd
  have hq : r.inquire none ⟨0, 0⟩ reading = .ok q := hq
  rw [hq] at hsome
  obtain ⟨hpolicies, hqueries⟩ := Prod.ext_iff.mp (Except.ok.inj hsome)
  rcases hcase with ⟨hnone, -⟩ | ⟨rounds, hasked, hnoted, -⟩
  · cases hnone.symm.trans hpolicies
  · exact ⟨d, rounds, hd, hasked.trans hqueries, hnoted, hlength⟩

/-- A role policy whose condition fails is noted whenever it is met, and so is a denial that only a role leads to. -/
theorem not_nodup_rolePolicies_readers :
    let r := unreachable.after () [.change (.addService readers)]
    r.global?.isNone = true ∧ ∃ d, (unreachable.diagnose ⟨0, 0⟩ reading ((), r)).1 = .ok d ∧
      d.rolePolicies.map (fun p => (p.id, p.outcome)) = [("1", .takesEffect), ("2", .conditionFailed),
        ("2", .conditionFailed), ("3", .takesEffect), ("2", .conditionFailed), ("3", .takesEffect)] ∧
      ¬ (d.rolePolicies.map (·.id)).Nodup := by
  intro r
  refine ⟨by decide +kernel, ?_⟩
  have hnoted : (unreachable.diagnose ⟨0, 0⟩ reading ((), r)).1.map (·.rolePolicies.map fun p => (p.id, p.outcome)) =
      .ok [("1", .takesEffect), ("2", .conditionFailed), ("2", .conditionFailed), ("3", .takesEffect),
        ("2", .conditionFailed), ("3", .takesEffect)] := by decide +kernel
  obtain ⟨d, hd, hnoted⟩ := exists_of_map_eq_ok hnoted
  refine ⟨d, hd, hnoted, fun hnodup => ?_⟩
  have hids := congrArg (List.map Prod.fst) hnoted
  rw [List.map_map] at hids
  change d.rolePolicies.map (·.id) = _ at hids
  rw [hids] at hnodup
  exact absurd hnodup (by decide)

end Turnstile

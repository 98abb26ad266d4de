import Mathlib.Data.List.Induction
import Turnstile.Proofs.Evaluation.Compilation
import Turnstile.Proofs.Evaluation.Decision

/-! Runs with a publisher. Conditions that evaluations compile wait in a queue, and are kept with their rules
when their turn comes. What is kept stays fresh exactly if every update still suits its rule when it is
applied; an update suits when it is compiled, and a change made while it waits can leave it outdated. -/
namespace Turnstile
variable {σ : Type}

/-- An action of a run with a publisher. -/
inductive Action where
  | change (m : Mutation)
  | ask (question : Question) (now : ClockTime) (request : Request)
  /-- The first update that waits is applied. -/
  | publish

namespace Evaluator
variable (e : Evaluator σ)

def act (s : σ × Registry) : Action → σ × Registry
  | .change m => (s.1, s.2.change m)
  | .ask question now request => e.ask question now request s
  | .publish => (s.1, s.2.publishNext)

section Run
variable (resolver : σ) {s : σ × Registry} {a : Action} {actions earlier : List Action}

theorem orderly_act (h : s.2.Orderly) (a : Action) : (e.act s a).2.Orderly := by
  cases a with
  | change m => exact h.change m
  | ask question now request =>
    obtain ⟨results, new, hask, -⟩ := e.ask_spec h question now request
    rw [act, hask]
    exact h
  | publish => exact h.publishNext

/-- Only an update can end the freshness of what is kept. -/
theorem fresh_act_iff (h : s.2.Fresh) (ho : s.2.Orderly) : (e.act s a).2.Fresh ↔
    (a = .publish → ∀ u waiting, s.2.updates = some (u :: waiting) → s.2.Suits u) := by
  cases a with
  | change m => exact iff_of_true (h.change ho m) fun h => nomatch h
  | ask question now request =>
    obtain ⟨results, new, hask, -⟩ := e.ask_spec ho question now request
    rw [act, hask]
    exact iff_of_true h fun h => nomatch h
  | publish =>
    rw [act, h.publishNext_iff]
    exact ⟨fun h _ => h, fun h => h rfl⟩

/-- Only a change can make an update unsuitable. -/
theorem suits_act {u : ConditionUpdate} (h : s.2.Suits u) (ho : s.2.Orderly)
    (ha : ∀ m, a ≠ .change m) : (e.act s a).2.Suits u := by
  cases a with
  | change m => exact absurd rfl (ha m)
  | ask question now request =>
    obtain ⟨results, new, hask, -⟩ := e.ask_spec ho question now request
    rw [act, hask]
    exact h
  | publish => exact h.publishNext

/-- The state after a run that starts with nothing loaded. -/
def run (actions : List Action) : σ × Registry :=
  actions.foldl e.act (resolver, { updates := some [] })

/-- The registry after a run. -/
def after (actions : List Action) : Registry := (e.run resolver actions).2

theorem run_concat (actions : List Action) (a : Action) :
    e.run resolver (actions ++ [a]) = e.act (e.run resolver actions) a := by
  rw [run, run, List.foldl_append, List.foldl_cons, List.foldl_nil]

theorem orderly_after (actions : List Action) : (e.after resolver actions).Orderly := by
  induction actions using List.reverseRecOn with
  | nil => exact fun _ _ h => nomatch h
  | append_singleton actions a ih =>
    rw [after, run_concat]
    exact e.orderly_act ih a

theorem fresh_after_concat_iff (h : (e.after resolver actions).Fresh) :
    (e.after resolver (actions ++ [a])).Fresh ↔ (a = .publish → ∀ u waiting,
      (e.after resolver actions).updates = some (u :: waiting) →
        (e.after resolver actions).Suits u) := by
  rw [after, run_concat]
  exact e.fresh_act_iff h (e.orderly_after resolver actions)

/-- An update that waits after an action has waited before it, or was compiled by it. -/
theorem waiting_after_concat {u : ConditionUpdate} {waiting : List ConditionUpdate}
    (h : (e.after resolver (actions ++ [a])).updates = some waiting) (hu : u ∈ waiting) :
    (∃ before, (e.after resolver actions).updates = some before ∧ u ∈ before) ∨
      (e.after resolver actions).Offers u := by
  rw [after, run_concat] at h
  cases a with
  | change m =>
    rw [act, Registry.updates_change] at h
    exact .inl ⟨waiting, h, hu⟩
  | ask question now request =>
    obtain ⟨results, new, hask, hnew⟩ :=
      e.ask_spec (e.orderly_after resolver actions) question now request
    rw [act, hask] at h
    obtain ⟨before, hbefore, rfl⟩ := Option.map_eq_some_iff.mp h
    rcases List.mem_append.mp hu with hu | hu
    · exact .inl ⟨before, hbefore, hu⟩
    · exact .inr (hnew u hu)
  | publish =>
    rw [act, Registry.updates_publishNext] at h
    obtain ⟨before, hbefore, rfl⟩ := Option.map_eq_some_iff.mp h
    exact .inl ⟨before, hbefore, List.mem_of_mem_tail hu⟩

/-- Every update that waits was compiled for a live rule before. -/
theorem exists_offers {u : ConditionUpdate} {waiting : List ConditionUpdate}
    (h : (e.after resolver actions).updates = some waiting) (hu : u ∈ waiting) :
    ∃ before, before <+: actions ∧ (e.after resolver before).Offers u := by
  induction actions using List.reverseRecOn generalizing waiting with
  | nil =>
    obtain rfl := Option.some.inj h
    cases hu
  | append_singleton actions a ih =>
    rcases e.waiting_after_concat resolver h hu with ⟨others, hothers, hu⟩ | hoffers
    · obtain ⟨before, hbefore, hoffers⟩ := ih hothers hu
      exact ⟨before, hbefore.trans (List.prefix_append actions [a]), hoffers⟩
    · exact ⟨actions, List.prefix_append actions [a], hoffers⟩

/-- As long as nothing changes while updates wait, all of them suit and all that is kept is fresh. -/
theorem fresh_after_of_quiet (h : ∀ earlier m, earlier ++ [.change m] <+: actions →
      (e.after resolver earlier).updates = some []) :
    (e.after resolver actions).Fresh ∧ ∀ waiting, (e.after resolver actions).updates = some waiting →
      ∀ u ∈ waiting, (e.after resolver actions).Suits u := by
  induction actions using List.reverseRecOn with
  | nil =>
    refine ⟨fun _ _ h => (nomatch h), fun waiting hwaiting u hu => ?_⟩
    obtain rfl := Option.some.inj hwaiting
    cases hu
  | append_singleton actions a ih =>
    obtain ⟨hfresh, hsuits⟩ := ih fun earlier m hm => h earlier m (hm.trans (List.prefix_append ..))
    constructor
    · rw [e.fresh_after_concat_iff resolver hfresh]
      exact fun _ u waiting hwaiting => hsuits _ hwaiting u List.mem_cons_self
    · intro waiting hwaiting u hu
      have hbefore : (e.after resolver actions).Suits u := by
        rcases e.waiting_after_concat resolver hwaiting hu with ⟨others, hothers, hu⟩ | hoffers
        · exact hsuits others hothers u hu
        · exact hoffers.suits
      rw [after, run_concat] at hwaiting ⊢
      refine e.suits_act hbefore (e.orderly_after resolver actions) ?_
      rintro m rfl
      have hnone := h actions m (List.prefix_refl _)
      rw [act, Registry.updates_change] at hwaiting
      obtain rfl := Option.some.inj (hnone.symm.trans hwaiting)
      cases hu

end Run

/-- In a run every condition that is kept is always fresh exactly if every update suits its rule when it is
applied: the rule, if the update still reaches one, has the text that was compiled for its condition, and the
functions are those that it was compiled for. Every update comes from a rule that was live with that text and
those functions, so all is well if nothing changes while updates wait. -/
theorem fresh_after_iff (e : Evaluator σ) (resolver : σ) (actions : List Action) :
    ((∀ earlier, earlier <+: actions → (e.after resolver earlier).Fresh) ↔
      ∀ earlier u waiting, earlier ++ [.publish] <+: actions →
        (e.after resolver earlier).updates = some (u :: waiting) →
          (e.after resolver earlier).Suits u) ∧
    (∀ earlier waiting, earlier <+: actions → (e.after resolver earlier).updates = some waiting →
      ∀ u ∈ waiting, ∃ before, before <+: earlier ∧ (e.after resolver before).Offers u) ∧
    ((∀ earlier m, earlier ++ [.change m] <+: actions →
        (e.after resolver earlier).updates = some []) →
      ∀ earlier, earlier <+: actions → (e.after resolver earlier).Fresh) := by
  refine ⟨⟨fun h earlier u waiting hpublish hu => ?_, fun h earlier => ?_⟩,
    fun earlier waiting _ hwaiting u hu => e.exists_offers resolver hwaiting hu,
    fun h earlier hearlier => ?_⟩
  · have hbefore := h earlier ((List.prefix_append ..).trans hpublish)
    exact (e.fresh_after_concat_iff resolver hbefore).mp (h _ hpublish) rfl u waiting hu
  · -- The induction is on the part of the run that is over.
    induction earlier using List.reverseRecOn with
    | nil => exact fun _ _ _ h => nomatch h
    | append_singleton earlier a ih =>
      intro hearlier
      rw [e.fresh_after_concat_iff resolver (ih ((List.prefix_append ..).trans hearlier))]
      rintro rfl u waiting
      exact h earlier u waiting hearlier
  · exact (e.fresh_after_of_quiet resolver fun before m hm => h before m (hm.trans hearlier)).1

end Evaluator

/-- A policy is replaced while its condition, compiled anew after a change of the functions, waits. -/
def revision : List Action :=
  let policy (condition : String) : Policy := { id := "1", effect := .grant, condition := some condition }
  [.change (.addService { name := "library" }),
    .change (.addPolicy "library" (policy "request_action == 'read'")),
    .change (.addFunction { name := "opening" }),
    .ask .decision ⟨0, 0⟩ reading,
    .change (.addPolicy "library" (policy "request_action == 'write'")),
    .publish]

/-- The update for the old policy then replaces what was compiled for the new one. -/
theorem not_fresh_after_revision : ¬ (unreachable.after () revision).Fresh := by
  intro h
  have hlive : (((unreachable.after () revision).service? "library").bind fun s =>
      (s.policies.get? "1").bind (·.condition?)) = some "request_action == 'write'" := by decide +kernel
  have hkept : (((unreachable.after () revision).service? "library").bind fun s =>
      (s.policies.condition? "1").map (·.expression)) = some "request_action == 'read'" := by
    decide +kernel
  obtain ⟨s, hs, hkept⟩ := Option.bind_eq_some_iff.mp hkept
  obtain ⟨k, hk, hread⟩ := Option.map_eq_some_iff.mp hkept
  rw [hs, Option.bind_some] at hlive
  obtain ⟨p, hp, hwrite⟩ := Option.bind_eq_some_iff.mp hlive
  have hsame := ((h _ s hs).policies "1" k hk p _ hp hwrite).1
  rw [hread] at hsame
  exact absurd hsame (by decide)

end Turnstile

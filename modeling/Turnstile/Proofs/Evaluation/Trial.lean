import Turnstile.Proofs.Evaluation.Truth

/-! Which conditions an answer comes from. To answer a question about a request, conditions of its rules are tried
one after the other. Nothing else changes the state of what computes functions, or their results. -/
namespace Turnstile
variable {σ α : Type}

/-- The condition is tried for a live rule: it is kept for the rule, or else its text is compiled to it. -/
def RuleCache.Tries [Rule α] (functions : FunctionTable) (c : RuleCache α) (k : CompiledCondition) : Prop :=
  ∃ a expression, c.get? (Rule.id a) = some a ∧ Rule.condition? a = some expression ∧
    (c.condition? (Rule.id a) = some k ∨
      c.condition? (Rule.id a) = none ∧ CompiledCondition.compile expression functions = .ok k)

namespace Inquiry

/-- The condition may be tried to answer a question. -/
def Tries (q : Inquiry) (k : CompiledCondition) : Prop :=
  ∃ s ∈ q.services, s.policies.Tries q.functions k ∨ s.rolePolicies.Tries q.functions k

/-- What trying conditions one after the other leaves. -/
def tryAll (w : Surroundings σ) (q : Inquiry) (s : σ × ResultCache) (tried : List CompiledCondition) :
    σ × ResultCache :=
  tried.foldl (fun s k => (k.evaluate w.resolve w.now q.attributes s).2) s

variable {q : Inquiry} {w : Surroundings σ} {k : CompiledCondition}

theorem tryAll_concat (s : σ × ResultCache) (tried : List CompiledCondition) (k : CompiledCondition) :
    q.tryAll w s (tried ++ [k]) = (k.evaluate w.resolve w.now q.attributes (q.tryAll w s tried)).2 := by
  rw [tryAll, tryAll, List.foldl_append, List.foldl_cons, List.foldl_nil]

/-- What every condition keeps is kept by all of them. -/
theorem tryAll_keeps {I : σ × ResultCache → Prop} {s : σ × ResultCache} (hs : I s)
    {tried : List CompiledCondition}
    (h : ∀ k ∈ tried, ∀ s, I s → I (k.evaluate w.resolve w.now q.attributes s).2) : I (q.tryAll w s tried) :=
  List.foldlRecOn tried _ hs fun s hs k hk => h k hk s hs

/-- Where nothing outdated is kept, all conditions have the functions that are loaded. -/
theorem Reads.functions_eq {r : Registry} (h : q.Reads r) (hfresh : r.Fresh) (hk : q.Tries k) :
    k.functions = r.functions := by
  have hcache {β : Type} [Rule β] {cache : RuleCache β} (hcache : cache.Fresh r.functions)
      (hk : cache.Tries q.functions k) : k.functions = r.functions := by
    obtain ⟨a, expression, ha, he, hkept | ⟨-, hcompiled⟩⟩ := hk
    · exact (hcache _ k hkept a expression ha he).2
    · obtain ⟨-, hfunctions⟩ := CompiledCondition.of_compile hcompiled
      rw [hfunctions, h.functions]
  obtain ⟨s, hs, hk⟩ := hk
  have hservice := hfresh s.name s (h.services s hs).1
  rcases hk with hk | hk
  · exact hcache hservice.policies hk
  · exact hcache hservice.rolePolicies hk

/-- The state comes from trying conditions. -/
def Tried (w : Surroundings σ) (q : Inquiry) (s t : σ × ResultCache) : Prop :=
  ∃ tried, (∀ k ∈ tried, q.Tries k) ∧ t = q.tryAll w s tried

theorem Tried.concat {s t : σ × ResultCache} (h : q.Tried w s t) (hk : q.Tries k) :
    q.Tried w s (k.evaluate w.resolve w.now q.attributes t).2 := by
  obtain ⟨tried, htried, rfl⟩ := h
  refine ⟨tried ++ [k], fun k' hk' => ?_, (tryAll_concat ..).symm⟩
  rcases List.mem_append.mp hk' with hk' | hk'
  · exact htried k' hk'
  · rw [List.mem_singleton.mp hk']
    exact hk

/-- To find out whether a rule holds, its condition is tried, if there is one. -/
theorem preserves_tried_holds [Rule α] {cache : RuleCache α} {a : α} {start : σ × ResultCache}
    (ha : cache.get? (Rule.id a) = some a) (hcache : ∀ k, cache.Tries q.functions k → q.Tries k)
    (service : LoadedService) (kind : RuleKind) :
    Preserves (fun s : Session σ => q.Tried w start s.calls) (q.holds w service kind cache a) := by
  have hcompiled (k : CompiledCondition) (hk : q.Tries k) :
      Preserves (fun s : Session σ => q.Tried w start s.calls) (q.holdsCompiled w k) := by
    intro s hs
    obtain ⟨t, hrun, hcalls, -⟩ := q.holdsCompiled_spec (w := w) k s
    rw [hrun]
    change q.Tried w start t.calls
    rw [hcalls]
    exact hs.concat hk
  rw [Inquiry.holds]
  cases he : Rule.condition? a with
  | none => exact .pure true
  | some expression =>
    cases hk : cache.condition? (Rule.id a) with
    | some k => exact hcompiled k (hcache k ⟨a, expression, ha, he, .inl hk⟩)
    | none =>
      cases hc : CompiledCondition.compile expression q.functions with
      | error _ =>
        simp only [hc]
        exact .pure false
      | ok k =>
        simp only [hc]
        refine Preserves.bind (.modify fun s hs => hs) fun _ => ?_
        exact hcompiled k (hcache k ⟨a, expression, ha, he, .inr ⟨hk, hc⟩⟩)

section Reads
variable {r : Registry} (h : q.Reads r) {start : σ × ResultCache}
include h

theorem tried_matchedPolicies (principals : List String) (request : Option (String × String)) :
    Preserves (fun s : Session σ => q.Tried w start s.calls) (q.matchedPolicies w principals request) := by
  refine preserves_matchedPolicies fun service hs p hp => ?_
  have ho := (h.services service hs).2
  have hp := ho.policies.sound.get?_of_mem_related (List.mem_filter.mp hp).1
  exact preserves_tried_holds hp (fun k hk => ⟨service, hs, .inl hk⟩) service .policy

theorem tried_roles : Preserves (fun s : Session σ => q.Tried w start s.calls) (q.roles w) := by
  refine preserves_roles (fun service hs principals seen p hp => ?_) fun _ _ hs => hs
  have ho := (h.services service hs).2
  have hp := ho.rolePolicies.sound.get?_of_mem_related (List.mem_filter.mp hp).1
  exact preserves_tried_holds hp (fun k hk => ⟨service, hs, .inr hk⟩) service .rolePolicy

end Reads
end Inquiry

/-- A question changes what computes functions and their results by trying conditions. -/
theorem Evaluator.tried_ask {e : Evaluator σ} {s : σ × Registry} (h : s.2.Orderly) {now : ClockTime}
    {request : Request} {q : Inquiry} (hq : s.2.inquire e.asserter now request = .ok q) (question : Question) :
    q.Tried ⟨e.resolve, now.seconds⟩ (s.1, s.2.results)
      ((e.ask question now request s).1, (e.ask question now request s).2.results) := by
  have hsame (q' : Inquiry) (hq' : s.2.inquire e.asserter now request = .ok q') : q' = q :=
    Except.ok.inj (hq'.symm.trans hq)
  let w : Surroundings σ := ⟨e.resolve, now.seconds⟩
  obtain ⟨t, ht, hask⟩ := ask_session (e := e) (s := s)
    (I := fun t => q.Tried w (s.1, s.2.results) t.calls) ⟨[], fun _ hk => (nomatch hk), rfl⟩ question
    (fun q' hq' => by
      rw [hsame q' hq']
      exact Inquiry.tried_roles (h.reads hq))
    fun q' hq' => by
      rw [hsame q' hq']
      exact Inquiry.tried_matchedPolicies (h.reads hq)
  rw [hask]
  exact ht

/-- A question about a request that is not resolved changes nothing of that. -/
theorem Evaluator.ask_of_error {e : Evaluator σ} {s : σ × Registry} {now : ClockTime} {request : Request}
    {err : Error} (hq : s.2.inquire e.asserter now request = .error err) (question : Question) :
    ((e.ask question now request s).1, (e.ask question now request s).2.results) = (s.1, s.2.results) := by
  have hnever (q : Inquiry) : s.2.inquire e.asserter now request ≠ .ok q := by
    rw [hq]
    exact fun h => nomatch h
  obtain ⟨t, ht, hask⟩ := ask_session (e := e) (s := s) (I := fun t => t.calls = (s.1, s.2.results)) rfl question
    (fun q hq => absurd hq (hnever q)) fun q hq => absurd hq (hnever q)
  rw [hask]
  exact ht

end Turnstile

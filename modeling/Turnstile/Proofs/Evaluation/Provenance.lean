import Mathlib.Data.List.DropRight
import Turnstile.Proofs.Condition.Calls
import Turnstile.Proofs.Evaluation.Recording
import Turnstile.Proofs.Evaluation.Trial

/-! Where the values of calls come from. A function that is added, replaced or removed loses its results, so what a
condition gets from a call was computed for the function that is in the table, after it was put there. -/
namespace Turnstile
variable {σ : Type}

def Action.touches (name : String) : Action → Bool
  | .change m => m.touches name
  | _ => false

/-- A run up to the last change of a function. -/
def uptoChange (name : String) (actions : List Action) : List Action :=
  actions.rdropWhile fun a => !a.touches name

section UptoChange
variable {name : String} {actions : List Action} {a : Action}

theorem uptoChange_concat (name : String) (actions : List Action) (a : Action) :
    uptoChange name (actions ++ [a]) =
      if a.touches name then actions ++ [a] else uptoChange name actions := by
  rw [uptoChange, uptoChange, List.rdropWhile_concat]
  cases a.touches name <;> rfl

/-- Unless the function was never changed, the run is split at its last change. -/
theorem exists_of_uptoChange (h : uptoChange name actions ≠ []) :
    ∃ before m after, actions = before ++ .change m :: after ∧ m.touches name ∧
      (∀ a ∈ after, ¬ a.touches name) ∧ uptoChange name actions = before ++ [.change m] := by
  induction actions using List.reverseRecOn with
  | nil => exact absurd rfl h
  | append_singleton actions a ih =>
    rw [uptoChange_concat] at h ⊢
    cases ha : a.touches name with
    | true =>
      cases a with
      | change m => exact ⟨actions, m, [], rfl, ha, fun _ h => (nomatch h), rfl⟩
      | ask question now request => cases ha
      | publish => cases ha
    | false =>
      rw [if_neg (by rw [ha]; exact Bool.false_ne_true)] at h
      rw [if_neg Bool.false_ne_true]
      obtain ⟨before, m, after, rfl, hm, hafter, hupto⟩ := ih h
      refine ⟨before, m, after ++ [a], List.append_assoc .., hm, fun b hb => ?_, hupto⟩
      rcases List.mem_append.mp hb with hb | hb
      · exact hafter b hb
      · rw [List.mem_singleton.mp hb, ha]
        exact Bool.false_ne_true

end UptoChange

namespace Evaluator
variable (e : Evaluator σ) (resolver : σ) (actions : List Action)

theorem regular_recorded : (e.recorded resolver actions).2.Regular := e.recording.regular_runAlone _ actions

/-- What had been computed when a function was changed last. -/
def logUpto (name : String) : List Computed := (e.recorded resolver (uptoChange name actions)).1.2

/-- What the registry keeps for its functions was computed for them since they were changed last. -/
def Grounded : Prop :=
  Backed (e.recorded resolver actions).2.functions.Defines (fun d => e.logUpto resolver actions d.name)
    ((e.recorded resolver actions).1, (e.recorded resolver actions).2.results)

variable {e resolver actions}

theorem logUpto_concat {name : String} {a : Action} : e.logUpto resolver (actions ++ [a]) name =
    if a.touches name then (e.recorded resolver (actions ++ [a])).1.2 else e.logUpto resolver actions name := by
  rw [logUpto, logUpto, uptoChange_concat]
  split <;> rfl

theorem grounded_change (h : e.Grounded resolver actions) (m : Mutation) :
    e.Grounded resolver (actions ++ [.change m]) := by
  have hact := e.recorded_concat resolver actions (.change m)
  rw [Grounded, hact]
  refine Backed.of_kept? h fun d hd => ?_
  rw [logUpto_concat, Action.touches]
  rcases Registry.kept?_of_change (e.regular_recorded resolver actions).named m hd with
    ⟨htouches, hnone⟩ | ⟨hspares, hbefore, hsame⟩
  · rw [if_pos htouches, hact]
    exact .inl ⟨rfl, hnone⟩
  · rw [hspares, if_neg Bool.false_ne_true]
    refine .inr ⟨hbefore, rfl, fun now args v hv => ?_⟩
    rcases hsame now args with hnone | hsame
    · cases hnone.symm.trans hv
    · exact hsame.symm.trans hv

section Tried
variable {now : ClockTime} {request : Request} {q : Inquiry}
  (hq : (e.recorded resolver actions).2.inquire e.asserter now request = .ok q)
  {since : FunctionDefinition → List Computed}
  {s : (σ × List Computed) × ResultCache}
include hq

/-- Conditions of the registry have its functions. -/
theorem functions_of_tries {k : CompiledCondition} (hk : q.Tries k) :
    k.functions = (e.recorded resolver actions).2.functions := by
  have hregular := e.regular_recorded resolver actions
  obtain ⟨c, hkeeps⟩ := hregular.keeps
  exact (hregular.orderly.reads hq).functions_eq hkeeps.fresh hk

private theorem backed_calls {k : CompiledCondition} (hk : q.Tries k) :
    ∀ name d, k.functions.get? name = some (.custom d) → ∀ args s,
      Backed (e.recorded resolver actions).2.functions.Defines since s →
        Backed (e.recorded resolver actions).2.functions.Defines since
          (d.call e.resolve.recording now.seconds args s).2 := by
  intro name d hd args s hs
  rw [functions_of_tries hq hk] at hd
  refine hs.call (fun d d' hd hd' hname => ?_) ⟨name, hd⟩ now.seconds args
  have hnamed := (e.regular_recorded resolver actions).named
  have hsame := (hnamed.get? hd).symm.trans ((congrArg _ hname).trans (hnamed.get? hd'))
  exact Function.custom.inj (Option.some.inj hsame)

private theorem backed_tryAll (h : Backed (e.recorded resolver actions).2.functions.Defines since s)
    {tried : List CompiledCondition} (htried : ∀ k ∈ tried, q.Tries k) :
    Backed (e.recorded resolver actions).2.functions.Defines since
      (q.tryAll ⟨e.resolve.recording, now.seconds⟩ s tried) :=
  Inquiry.tryAll_keeps h fun k hk _ hs =>
    (CompiledCondition.calls_spec (backed_calls hq (htried k hk)) hs).1

end Tried

private theorem functions_ask (question : Question) (now : ClockTime) (request : Request) :
    (e.recorded resolver (actions ++ [.ask question now request])).2.functions =
      (e.recorded resolver actions).2.functions := by
  obtain ⟨results, new, hframe, -⟩ :=
    e.recording.ask_spec (e.regular_recorded resolver actions).orderly question now request
  rw [recorded_concat, act, hframe]

private theorem recorded_publish :
    e.recorded resolver (actions ++ [.publish]) = e.recorded resolver actions := by
  rw [recorded_concat, act, Registry.publishNext, (e.regular_recorded resolver actions).quiet]

theorem grounded_ask (h : e.Grounded resolver actions) (question : Question) (now : ClockTime)
    (request : Request) : e.Grounded resolver (actions ++ [.ask question now request]) := by
  have hsince (d : FunctionDefinition) : e.logUpto resolver (actions ++ [.ask question now request]) d.name =
      e.logUpto resolver actions d.name := logUpto_concat
  rw [Grounded, functions_ask, funext hsince, recorded_concat, act]
  cases hq : (e.recorded resolver actions).2.inquire e.asserter now request with
  | ok q =>
    have horderly := (e.regular_recorded resolver actions).orderly
    obtain ⟨tried, htried, hstate⟩ := tried_ask (e := e.recording) horderly hq question
    rw [hstate]
    exact backed_tryAll hq h htried
  | error err =>
    rw [ask_of_error (e := e.recording) hq question]
    exact h

variable (e resolver actions) in
theorem grounded_recorded : e.Grounded resolver actions := by
  induction actions using List.reverseRecOn with
  | nil => exact fun d hd => absurd hd (FunctionTable.not_defines_builtins d)
  | append_singleton actions a ih =>
    cases a with
    | change m => exact grounded_change ih m
    | ask question now request => exact grounded_ask ih question now request
    | publish =>
      have hsince (d : FunctionDefinition) :
          e.logUpto resolver (actions ++ [.publish]) d.name = e.logUpto resolver actions d.name := logUpto_concat
      rw [Grounded, recorded_publish, funext hsince]
      exact ih

/-- A custom function that is there was there after the last change of its name. -/
theorem defines_uptoChange {d : FunctionDefinition} (h : (e.recorded resolver actions).2.functions.Defines d) :
    uptoChange d.name actions ≠ [] ∧
      (e.recorded resolver (uptoChange d.name actions)).2.functions.Defines d := by
  induction actions using List.reverseRecOn with
  | nil => exact absurd h (FunctionTable.not_defines_builtins d)
  | append_singleton actions a ih =>
    rw [uptoChange_concat]
    split
    · exact ⟨List.concat_ne_nil a actions, h⟩
    · next hspares =>
      refine ih ?_
      cases a with
      | change m =>
        rw [recorded_concat] at h
        rcases Registry.kept?_of_change (e.regular_recorded resolver actions).named m h with
          ⟨htouches, -⟩ | ⟨-, hbefore, -⟩
        · exact absurd htouches hspares
        · exact hbefore
      | ask question now request => exact functions_ask (e := e) question now request ▸ h
      | publish => exact recorded_publish (e := e) ▸ h

/-- The run put the function into the table by a change, and has not touched its name since. -/
structure InstalledBy (e : Evaluator σ) (resolver : σ) (actions : List Action) (d : FunctionDefinition)
    (before : List Action) (m : Mutation) : Prop where
  last : ∃ after, actions = before ++ .change m :: after ∧ ∀ a ∈ after, ¬ a.touches d.name
  touches : m.touches d.name
  installed : (e.recorded resolver (before ++ [.change m])).2.functions.get? d.name = some (.custom d)

theorem exists_installedBy {d : FunctionDefinition} (h : (e.recorded resolver actions).2.functions.Defines d) :
    ∃ before m, e.InstalledBy resolver actions d before m ∧
      e.logUpto resolver actions d.name = (e.recorded resolver (before ++ [.change m])).1.2 := by
  obtain ⟨hchanged, hdefined⟩ := defines_uptoChange h
  obtain ⟨before, m, after, hactions, hm, hafter, hupto⟩ := exists_of_uptoChange hchanged
  rw [hupto] at hdefined
  refine ⟨before, m, ⟨⟨after, hactions, hafter⟩, hm, ?_⟩, by rw [logUpto, hupto]⟩
  exact (e.regular_recorded resolver _).named.get? hdefined

/-- Answers come from trying conditions, all of them with the functions that are loaded; and whenever such a
condition gets a value from a call of a custom function, whatever was tried before, then the value was computed
for this function and these arguments, after the change that put the function into the table. It was computed
during the call itself, unless results of the function may be kept. -/
theorem computed_of_called (e : Evaluator σ) (resolver : σ) (actions : List Action) {now : ClockTime}
    {request : Request} {q : Inquiry}
    (hq : (e.recorded resolver actions).2.inquire e.asserter now request = .ok q) :
    let s := e.recorded resolver actions
    let w : Surroundings (σ × List Computed) := ⟨e.resolve.recording, now.seconds⟩
    forget s = e.runAlone resolver actions ∧
    (∀ question, ∃ tried, (∀ k ∈ tried, q.Tries k) ∧ ((e.recording.ask question now request s).1,
        (e.recording.ask question now request s).2.results) = q.tryAll w (s.1, s.2.results) tried) ∧
      ∀ tried k, (∀ k ∈ tried, q.Tries k) → q.Tries k → k.functions = s.2.functions ∧
        ∀ c ∈ k.calls w.resolve w.now q.attributes (q.tryAll w (s.1, s.2.results) tried),
          ∀ d v, k.functions.get? c.name = some (.custom d) → c.result = .ok v →
            d.name = c.name ∧ ∃ before m json new, e.InstalledBy resolver actions d before m ∧
              v = Condition.Value.ofJson json ∧
              c.after.1.2 = (e.recorded resolver (before ++ [.change m])).1.2 ++ new ∧
              ⟨d, c.args.map Condition.Value.toJson, .ok json⟩ ∈ new ∧
              (c.after.1.2 = c.before.1.2 → d.cachable) := by
  intro s w
  have hregular := e.regular_recorded resolver actions
  refine ⟨e.forget_recorded resolver actions, fun question => tried_ask (e := e.recording) hregular.orderly hq question,
    fun tried k htried hk => ⟨functions_of_tries hq hk, fun c hc d v hd hv => ?_⟩⟩
  have hbefore := backed_tryAll hq (e.grounded_recorded resolver actions) htried
  obtain ⟨hbacked, f, hf, hcall⟩ := (CompiledCondition.calls_spec (backed_calls hq hk) hbefore).2 c hc
  obtain rfl := Option.some.inj (hf.symm.trans hd)
  rw [hv] at hcall
  obtain ⟨json, rfl, hcomputed⟩ := CompiledCondition.call_of_callable hcall
  rw [functions_of_tries hq hk] at hd
  obtain ⟨new, hlog, hmem, hcachable⟩ := hbacked.of_call ⟨_, hd⟩ hcomputed
  obtain ⟨before, m, hinstalled, hsince⟩ := exists_installedBy ⟨_, hd⟩
  rw [hsince] at hlog
  exact ⟨hregular.named c.name d hd, before, m, json, new, hinstalled, rfl, hlog, hmem, hcachable⟩

end Evaluator

/-- Who looks after the library from some time on. -/
def relief : FunctionDefinition := { name := "opening", cachable := true, lifetime := 60 }

/-- A library gets another caretaker after somebody has asked. -/
def relieved : List Action :=
  [.change (.addService { name := "library", policies := [openReading] }),
    .change (.addFunction { name := "opening", cachable := true }),
    .ask .decision ⟨0, 0⟩ reading,
    .change (.addFunction relief),
    .ask .decision ⟨1, 0⟩ reading]

private theorem eq_ok_of_toOption {ε α : Type} {x : Except ε α} {a : α} (h : x.toOption = some a) : x = .ok a := by
  cases x with
  | error _ => cases h
  | ok _ => exact congrArg Except.ok (Option.some.inj h)

/-- What is kept then is what the new one has found out. -/
theorem computed_of_called_relieved : ∃ q k, ∃ c ∈ k.calls caretaker.resolve.recording 2 q.attributes
      ((caretaker.recorded 0 relieved).1, (caretaker.recorded 0 relieved).2.results),
    (caretaker.recorded 0 relieved).2.inquire caretaker.asserter ⟨2, 0⟩ reading = .ok q ∧ q.Tries k ∧
      (k.functions.get? c.name = some (.custom relief) ∧ c.after.1.2.length = c.before.1.2.length) ∧
      ∃ before m json new, caretaker.InstalledBy 0 relieved relief before m ∧
        c.result = .ok (Condition.Value.ofJson json) ∧
        c.after.1.2 = (caretaker.recorded 0 (before ++ [.change m])).1.2 ++ new ∧
        ⟨relief, c.args.map Condition.Value.toJson, .ok json⟩ ∈ new := by
  have hrule : ((caretaker.recorded 0 relieved).2.service? "library").map (fun s =>
      (s.policies.get? "1", (s.policies.condition? "1").isNone)) = some (some openReading, true) := by
    decide +kernel
  have hcalls : ((((caretaker.recorded 0 relieved).2.inquire caretaker.asserter ⟨2, 0⟩ reading).toOption.bind
      fun q => (CompiledCondition.compile "opening()" q.functions).toOption.map fun k =>
        (k.calls caretaker.resolve.recording 2 q.attributes
          ((caretaker.recorded 0 relieved).1, (caretaker.recorded 0 relieved).2.results)).map fun c =>
            (k.functions.get? c.name, c.result.toOption.isSome, c.before.1.2.length, c.after.1.2.length))) =
      some [(some (.custom relief), true, 2, 2)] := by decide +kernel
  obtain ⟨s, hs, hpolicy⟩ := Option.map_eq_some_iff.mp hrule
  obtain ⟨hpolicy, hnone⟩ := Prod.ext_iff.mp hpolicy
  obtain ⟨q, hq, hcalls⟩ := Option.bind_eq_some_iff.mp hcalls
  obtain ⟨k, hk, hcalls⟩ := Option.map_eq_some_iff.mp hcalls
  obtain ⟨c, hc, hcall⟩ := List.map_eq_singleton_iff.mp hcalls
  simp only [Prod.mk.injEq] at hcall
  obtain ⟨hfunction, hresult, hbefore, hafter⟩ := hcall
  have hfound := eq_ok_of_toOption hq
  have htries : q.Tries k :=
    ⟨s, (Registry.mem_services_iff hfound).mpr ⟨_, .inl rfl, hs⟩, .inl ⟨openReading, "opening()", hpolicy, rfl,
      .inr ⟨Option.isNone_iff_eq_none.mp hnone, eq_ok_of_toOption hk⟩⟩⟩
  obtain ⟨-, -, hcomputed⟩ := caretaker.computed_of_called 0 relieved hfound
  obtain ⟨-, hvalues⟩ := hcomputed [] k (fun _ hk => nomatch hk) htries
  have hmem : c ∈ k.calls caretaker.resolve.recording 2 q.attributes
      ((caretaker.recorded 0 relieved).1, (caretaker.recorded 0 relieved).2.results) := by
    rw [hc]
    exact List.mem_singleton_self c
  cases hvalue : c.result with
  | error _ =>
    rw [hvalue] at hresult
    cases hresult
  | ok v =>
    obtain ⟨-, before, m, json, new, hinstalled, rfl, hlog, hnew, -⟩ :=
      hvalues c hmem relief v hfunction hvalue
    exact ⟨q, k, c, hmem, hfound, htries, ⟨hfunction, hafter.trans hbefore.symm⟩, before, m, json, new, hinstalled,
      hvalue, hlog, hnew⟩

end Turnstile

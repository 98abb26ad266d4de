import Turnstile.Proofs.Evaluation.Agreement
import Turnstile.Proofs.Evaluation.Publication

/-! What answers depend on. After any run in which nobody applies condition updates, answers depend on the rules
and the functions that are left, and not on how they came there: neither on the order of changes nor on what was
asked in between. -/
namespace Turnstile
variable {σ α : Type}

/-- The change puts a function of the name into the table, or takes it away; a reload does so for all names. -/
def Mutation.touches (name : String) : Mutation → Bool
  | .reload _ => true
  | .addFunction d => d.name = name
  | .deleteFunction n => n = name
  | _ => false

namespace Registry
variable {r r' : Registry}

/-- A registry that keeps nothing outdated and one of the same content look alike. -/
private theorem rel_twins (h : ∃ c, r.Keeps c) (h' : ∃ c, r'.Keeps c) (functions : r.functions = r'.functions)
    (services : ∀ name, (r.service? name).map LoadedService.live = (r'.service? name).map LoadedService.live)
    (name : String) :
    Option.Rel (LoadedService.Twins r.functions) (r.service? name) (r'.service? name) := by
  have hkeeps {x : Registry} (hx : ∃ c, x.Keeps c) {s : LoadedService} (hs : x.service? name = some s) :
      s.Keeps x.functions s.live := by
    obtain ⟨c, hc⟩ := hx
    have hrel := hc.services name
    rw [← service?, hs] at hrel
    cases hl : c.services.get? name with
    | none =>
      rw [hl] at hrel
      cases hrel
    | some l =>
      rw [hl] at hrel
      cases hrel with
      | some hsl =>
        rw [hsl.live_eq, hc.functions]
        exact hsl
  have hname := services name
  cases hs : r.service? name with
  | none =>
    cases ht : r'.service? name with
    | none => exact .none
    | some t =>
      rw [hs, ht] at hname
      cases hname
  | some s =>
    cases ht : r'.service? name with
    | none =>
      rw [hs, ht] at hname
      cases hname
    | some t =>
      rw [hs, ht] at hname
      have hlive : s.live = t.live := Option.some.inj hname
      refine .some ⟨hkeeps h hs, ?_⟩
      rw [functions, hlive]
      exact hkeeps h' ht

/-- A request is resolved alike in registries of one content. -/
theorem inquire_twins (h : ∃ c, r.Keeps c) (h' : ∃ c, r'.Keeps c) (functions : r.functions = r'.functions)
    (services : ∀ name, (r.service? name).map LoadedService.live = (r'.service? name).map LoadedService.live)
    (asserter : Option TokenAsserter) (now : ClockTime) (request : Request) :
    (∃ err, r.inquire asserter now request = .error err ∧ r'.inquire asserter now request = .error err) ∨
      ∃ q twins, r.inquire asserter now request = .ok q ∧
        r'.inquire asserter now request = .ok { q with services := twins } ∧
        q.functions = r.functions ∧ List.Forall₂ (LoadedService.Twins r.functions) q.services twins :=
  inquire_related functions (rel_twins h h' functions services) asserter now request

section Functions

private theorem frame_changeService (r : Registry) (name : String) (f : LoadedService → LoadedService) :
    ((r.changeService name f).toOption.getD r).functions = r.functions ∧
      ((r.changeService name f).toOption.getD r).results = r.results := by
  rw [changeService]
  split
  · exact ⟨rfl, rfl⟩
  · exact ⟨rfl, rfl⟩

/-- Changes of rules leave the functions and their results alone. A reload drops all results. -/
theorem frame_change (r : Registry) (m : Mutation) :
    ((∀ name, m.touches name = false) ∧ (r.change m).functions = r.functions ∧
        (r.change m).results = r.results) ∨
      (∃ snapshot, m = .reload snapshot) ∨ (∃ d, m = .addFunction d) ∨ ∃ name, m = .deleteFunction name := by
  cases m with
  | reload snapshot => exact .inr (.inl ⟨snapshot, rfl⟩)
  | addService s =>
    rw [change, addService, insertBuilt?, if_pos rfl, Option.getD_some]
    exact .inl ⟨fun _ => rfl, rfl, rfl⟩
  | deleteService name => exact .inl ⟨fun _ => rfl, rfl, rfl⟩
  | addPolicy service p => exact .inl ⟨fun _ => rfl, frame_changeService ..⟩
  | deletePolicy service id => exact .inl ⟨fun _ => rfl, frame_changeService ..⟩
  | addRolePolicy service p => exact .inl ⟨fun _ => rfl, frame_changeService ..⟩
  | deleteRolePolicy service id => exact .inl ⟨fun _ => rfl, frame_changeService ..⟩
  | addFunction d => exact .inr (.inr (.inl ⟨d, rfl⟩))
  | deleteFunction name => exact .inr (.inr (.inr ⟨name, rfl⟩))

/-- Changes keep custom functions under their own names. -/
theorem named_change (h : r.functions.Named) (m : Mutation) : (r.change m).functions.Named := by
  rcases r.frame_change m with ⟨-, hfunctions, -⟩ | ⟨snapshot, rfl⟩ | ⟨d, rfl⟩ | ⟨name, rfl⟩
  · rw [hfunctions]
    exact h
  · exact List.foldlRecOn (motive := FunctionTable.Named) snapshot.functions _
      FunctionTable.named_builtins fun t ht d _ => ht.withCustom d
  · exact h.withCustom d
  · exact h.withoutCustom name

/-- A change of a function drops its results. Any other change leaves it as it is, and keeps no new result. -/
theorem kept?_of_change (h : r.functions.Named) (m : Mutation) {d : FunctionDefinition}
    (hd : (r.change m).functions.Defines d) :
    m.touches d.name = true ∧ (∀ now args, d.kept? now args (r.change m).results = none) ∨
      m.touches d.name = false ∧ r.functions.Defines d ∧ ∀ now args,
        d.kept? now args (r.change m).results = none ∨
          d.kept? now args (r.change m).results = d.kept? now args r.results := by
  have hrules (hfunctions : (r.change m).functions = r.functions) (hresults : (r.change m).results = r.results) :
      r.functions.Defines d ∧ ∀ now args, d.kept? now args (r.change m).results = none ∨
        d.kept? now args (r.change m).results = d.kept? now args r.results := by
    rw [hfunctions] at hd
    rw [hresults]
    exact ⟨hd, fun _ _ => .inr rfl⟩
  rcases r.frame_change m with ⟨hspares, hfunctions, hresults⟩ | ⟨snapshot, rfl⟩ | ⟨added, rfl⟩ | ⟨name, rfl⟩
  · exact .inr ⟨hspares d.name, hrules hfunctions hresults⟩
  · exact .inl ⟨rfl, fun _ _ => FunctionDefinition.kept?_empty⟩
  · by_cases hname : added.name = d.name
    · refine .inl ⟨decide_eq_true hname, fun now args => ?_⟩
      change d.kept? now args (r.results.purge added.name) = none
      rw [hname]
      exact FunctionDefinition.kept?_purge_self
    · have hd := (h.withCustom added).get? hd
      rw [FunctionTable.get?_withCustom, if_neg (Ne.symm hname)] at hd
      exact .inr ⟨decide_eq_false hname, ⟨d.name, hd⟩, fun _ _ => FunctionDefinition.kept?_purge added.name⟩
  · by_cases hname : name = d.name
    · refine .inl ⟨decide_eq_true hname, fun now args => ?_⟩
      change d.kept? now args (r.results.purge name) = none
      rw [hname]
      exact FunctionDefinition.kept?_purge_self
    · obtain ⟨n, hn⟩ := hd
      exact .inr ⟨decide_eq_false hname, ⟨n, FunctionTable.get?_withoutCustom hn⟩,
        fun _ _ => FunctionDefinition.kept?_purge name⟩

/-- A result that is kept after a change was kept for the same function before it. -/
theorem kept?_change (h : r.functions.Named) (m : Mutation) {d : FunctionDefinition}
    (hd : (r.change m).functions.Defines d) (now : Int) (args : List Json) :
    d.kept? now args (r.change m).results = none ∨
      r.functions.Defines d ∧ d.kept? now args (r.change m).results = d.kept? now args r.results := by
  rcases kept?_of_change h m hd with ⟨-, hnone⟩ | ⟨-, hbefore, hkept⟩
  · exact .inl (hnone now args)
  · exact (hkept now args).imp id fun hsame => ⟨hbefore, hsame⟩

end Functions

end Registry

/-- Nobody applies updates, and nothing outdated is kept. -/
structure Registry.Regular (r : Registry) : Prop where
  quiet : r.updates = none
  keeps : ∃ c, r.Keeps c
  orderly : r.Orderly
  named : r.functions.Named

namespace Evaluator
variable (e : Evaluator σ) {answers : FunctionDefinition → List Json → Except Error Json}

theorem regular_act {s : σ × Registry} (h : s.2.Regular) (a : Action) : (e.act s a).2.Regular := by
  obtain ⟨c, hkeeps⟩ := h.keeps
  cases a with
  | change m =>
    exact ⟨(s.2.updates_change m).trans h.quiet, ⟨_, hkeeps.change m⟩, h.orderly.change m,
      Registry.named_change h.named m⟩
  | ask question now request =>
    obtain ⟨results, new, hask, -⟩ := e.ask_spec h.orderly question now request
    rw [act, hask]
    exact ⟨Option.map_eq_none_iff.mpr h.quiet, ⟨c, hkeeps.functions, hkeeps.services⟩, h.orderly, h.named⟩
  | publish =>
    have hnothing : s.2.publishNext = s.2 := by
      rw [Registry.publishNext, h.quiet]
    rw [act, hnothing]
    exact h

/-- The state after a run that starts with nothing loaded, in which nobody applies updates. -/
def runAlone (e : Evaluator σ) (resolver : σ) (actions : List Action) : σ × Registry :=
  actions.foldl e.act (resolver, {})

theorem regular_runAlone (resolver : σ) (actions : List Action) :
    (e.runAlone resolver actions).2.Regular := by
  have hstart : ((resolver, {}) : σ × Registry).2.Regular :=
    ⟨rfl, ⟨{}, rfl, ServicesKeep.empty _⟩, fun _ _ h => (nomatch h), FunctionTable.named_builtins⟩
  exact List.foldlRecOn (motive := fun s => s.2.Regular) actions e.act hstart fun s h a _ => e.regular_act h a

/-- Besides, every function answers what is computed for it. -/
structure Undisturbed (answers : FunctionDefinition → List Json → Except Error Json) (s : σ × Registry) :
    Prop where
  quiet : s.2.updates = none
  keeps : ∃ c, s.2.Keeps c
  orderly : s.2.Orderly
  named : s.2.functions.Named
  settled : Settled e.resolve s.2.functions.Defines (fun _ => True) answers (s.1, s.2.results)

variable {e} {s : σ × Registry}

private theorem settled_act (pure : e.resolve.IsPure answers) (h : e.Undisturbed answers s) (a : Action) :
    Settled e.resolve (e.act s a).2.functions.Defines (fun _ => True) answers
      ((e.act s a).1, (e.act s a).2.results) := by
  cases a with
  | change m => exact h.settled.of_kept? pure fun d hd now args => Registry.kept?_change h.named m hd now args
  | ask question now request =>
    obtain ⟨c, hkeeps⟩ := h.keeps
    have hreads (q : Inquiry) (hq : s.2.inquire e.asserter now request = .ok q) :
        (∀ service ∈ q.services, service.Orderly) ∧ ∀ d, q.Uses d → s.2.functions.Defines d :=
      ⟨fun service hs => ((h.orderly.reads hq).services service hs).2,
        fun d hd => hkeeps.fresh.defines ((h.orderly.reads hq).uses hd)⟩
    let w : Surroundings σ := ⟨e.resolve, now.seconds⟩
    obtain ⟨t, ht, hask⟩ := ask_session (e := e) (s := s)
      (I := fun t => Settled e.resolve s.2.functions.Defines (fun _ => True) answers t.calls) h.settled question
      (fun q hq => Inquiry.settled_roles (w := w) pure h.named.answerAlike trivial (hreads q hq).1
        (hreads q hq).2)
      fun q hq => Inquiry.settled_matchedPolicies (w := w) pure h.named.answerAlike trivial (hreads q hq).1
        (hreads q hq).2
    rw [act, hask]
    exact ht
  | publish =>
    have hnothing : s.2.publishNext = s.2 := by
      rw [Registry.publishNext, h.quiet]
    rw [act, hnothing]
    exact h.settled

theorem undisturbed_act (pure : e.resolve.IsPure answers) (h : e.Undisturbed answers s) (a : Action) :
    e.Undisturbed answers (e.act s a) := by
  obtain ⟨quiet, keeps, orderly, named⟩ := e.regular_act ⟨h.quiet, h.keeps, h.orderly, h.named⟩ a
  exact ⟨quiet, keeps, orderly, named, settled_act pure h a⟩

theorem undisturbed_runAlone (pure : e.resolve.IsPure answers) (resolver : σ) (actions : List Action) :
    e.Undisturbed answers (e.runAlone resolver actions) := by
  have hstart : e.Undisturbed answers (resolver, {}) :=
    ⟨rfl, ⟨{}, rfl, ServicesKeep.empty _⟩, fun _ _ h => (nomatch h), FunctionTable.named_builtins,
      fun d hd => absurd hd (FunctionTable.not_defines_builtins d)⟩
  exact List.foldlRecOn actions e.act hstart fun s h a _ => e.undisturbed_act pure h a

/-- What is asked is found out alike in two states of one content. -/
theorem answer_congr {s t : σ × Registry} (h : e.Undisturbed answers s)
    (h' : e.Undisturbed answers t) (functions : s.2.functions = t.2.functions)
    (services : s.2.services.map LoadedService.live = t.2.services.map LoadedService.live) (now : ClockTime)
    (request : Request) {f : Surroundings σ → Inquiry → Evaluation σ α}
    (hf : ∀ q twins, (∀ d, q.functions.Defines d → s.2.functions.Defines d) →
      List.Forall₂ (LoadedService.Twins q.functions) q.services twins →
      Agree (Session.Alike (Settled e.resolve s.2.functions.Defines (fun _ => True) answers))
        (f ⟨e.resolve, now.seconds⟩ q) (f ⟨e.resolve, now.seconds⟩ { q with services := twins })) :
    (e.answer now request f s).1 = (e.answer now request f t).1 := by
  obtain ⟨resolver, r⟩ := s
  obtain ⟨resolver', r'⟩ := t
  have hservices (name : String) :
      (r.service? name).map LoadedService.live = (r'.service? name).map LoadedService.live := by
    have hname := congrArg (fun d : Dict LiveService => d.get? name) services
    dsimp only at hname
    rw [Dict.get?_map, Dict.get?_map] at hname
    exact hname
  have hinquire := Registry.inquire_twins h.keeps h'.keeps functions hservices e.asserter now request
  rw [answer, answer]
  rcases hinquire with ⟨err, hr, hr'⟩ | ⟨q, twins, hr, hr', hq, htwins⟩
  · rw [hr, hr']
  · rw [← hq] at htwins
    have hagree := hf q twins (fun d hd => hq ▸ hd) htwins { resolver, results := r.results }
      { resolver := resolver', results := r'.results } ⟨h.settled, functions ▸ h'.settled, rfl⟩
    rw [hr, hr']
    exact congrArg Except.ok hagree.1

/-- Two undisturbed states of one content answer every question alike. -/
private theorem answers_congr (pure : e.resolve.IsPure answers) {s t : σ × Registry}
    (h : e.Undisturbed answers s) (h' : e.Undisturbed answers t) (functions : s.2.functions = t.2.functions)
    (services : s.2.services.map LoadedService.live = t.2.services.map LoadedService.live) (now : ClockTime)
    (request : Request) :
    (e.diagnose now request s).1 = (e.diagnose now request t).1 ∧
      (e.grantedRoles now request s).1 = (e.grantedRoles now request t).1 ∧
      (e.grantedPermissions now request s).1 = (e.grantedPermissions now request t).1 := by
  let w : Surroundings σ := ⟨e.resolve, now.seconds⟩
  have alike : AnswerAlike answers s.2.functions.Defines := h.named.answerAlike
  refine ⟨?_, ?_, ?_⟩
  · exact answer_congr h h' functions services now request fun q twins hq htwins =>
      Inquiry.agree_decide (w := w) pure alike trivial hq htwins request
  · exact answer_congr h h' functions services now request fun q twins hq htwins =>
      (Inquiry.agree_roles (w := w) pure alike trivial hq htwins).bind fun _ => .pure _
  · exact answer_congr h h' functions services now request fun q twins hq htwins =>
      Inquiry.agree_permissions (w := w) pure alike trivial hq htwins

end Evaluator
/-- A library is always open. The state counts how often somebody has looked. -/
def caretaker : Evaluator Nat where
  resolve _ _ n := (.ok (.bool true), n + 1)

/-- A library where everybody may read while it is open. -/
def openReading : Policy :=
  { id := "1", effect := .grant, condition := some "opening()" }

/-- The library is loaded at once. -/
def restock : List Action :=
  [.change (.reload {
    services := [{ name := "library", policies := [openReading] }]
    functions := [{ name := "opening", cachable := true }] })]

/-- The library is built up piece by piece. A denial is replaced, one change fails, and somebody asks. -/
def piecemeal : List Action :=
  [.change (.addService { name := "library" }),
    .change (.addPolicy "library" { id := "1", effect := .deny }),
    .change (.addFunction { name := "opening", cachable := true }),
    .ask .decision ⟨0, 0⟩ reading,
    .change (.deletePolicy "museum" "1"),
    .change (.addPolicy "library" openReading),
    .ask .permissions ⟨1, 0⟩ reading]

end Turnstile

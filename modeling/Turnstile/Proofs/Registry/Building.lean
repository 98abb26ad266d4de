import Mathlib.Logic.Function.Basic
import Turnstile.Proofs.Registry.Freshness

/-! Services that are built while the registry changes. Whoever adds a service reads the functions and their
generation, builds the service for them, and then comes to insert it. If the generation is another one by then, the
service is built anew. However all this interleaves, the registry is what a history of changes makes of it, in which
every service is added at the moment of its insertion. -/
namespace Turnstile

/-- A condition that is kept was compiled for the function table. -/
theorem RuleCache.Keeps.functions_eq {α : Type} [Rule α] {functions : FunctionTable} {c : RuleCache α}
    {rules : Dict α} (h : c.Keeps functions rules) {id : String} {k : CompiledCondition}
    (hk : c.condition? id = some k) : k.functions = functions := by
  obtain ⟨a, -, hcompiled⟩ := h.conditions id k hk
  obtain ⟨expression, -, hcompile⟩ := compile_of_compiledCondition? hcompiled
  exact (CompiledCondition.of_compile hcompile).2

namespace Registry

/-- A loaded service keeps what is live, whatever that is. -/
theorem Keeps.service {r : Registry} {c : Catalogue} (h : r.Keeps c) {name : String} {s : LoadedService}
    (hs : r.service? name = some s) : ∃ live, s.Keeps r.functions live := by
  have hname := h.services name
  rw [service?] at hs
  rw [hs, ← h.functions] at hname
  generalize c.services.get? name = live at hname
  cases hname with
  | some hkeeps => exact ⟨_, hkeeps⟩

private theorem functions_changeService (r : Registry) (name : String) (f : LoadedService → LoadedService) :
    ((r.changeService name f).toOption.getD r).functions = r.functions ∧
      ((r.changeService name f).toOption.getD r).generation = r.generation := by
  rw [changeService]
  split
  · exact ⟨rfl, rfl⟩
  · exact ⟨rfl, rfl⟩

/-- A change leaves the functions alone, or their generation is a new one. -/
theorem generation_change (r : Registry) (m : Mutation) :
    (r.change m).functions = r.functions ∧ (r.change m).generation = r.generation ∨
      (r.change m).generation = r.generation + 1 := by
  cases m with
  | reload snapshot => exact .inr rfl
  | addService s =>
    rw [change, addService, insertBuilt?, if_pos rfl, Option.getD_some]
    exact .inl ⟨rfl, rfl⟩
  | deleteService name => exact .inl ⟨rfl, rfl⟩
  | addPolicy service p => exact .inl (functions_changeService ..)
  | deletePolicy service id => exact .inl (functions_changeService ..)
  | addRolePolicy service p => exact .inl (functions_changeService ..)
  | deleteRolePolicy service id => exact .inl (functions_changeService ..)
  | addFunction d => exact .inr rfl
  | deleteFunction name => exact .inr rfl

end Registry

/-- How far somebody has come who adds a service. -/
inductive Builder where
  /-- Has not read the functions, or has to read them again. -/
  | waiting (s : Service)
  /-- Builds the service for the functions that it has read. -/
  | building (s : Service) (functions : FunctionTable) (generation : Nat)

/-- A registry without a publisher, and those who add services to it. -/
structure BuildingSite where
  registry : Registry := {}
  builders : Nat → Option Builder := fun _ => none

namespace BuildingSite

inductive Action where
  | call (builder : Nat) (s : Service)
  | read (builder : Nat)
  | insert (builder : Nat)
  | change (m : Mutation)

/-- One step of somebody, without effect if it is not its turn. -/
def step (w : BuildingSite) : Action → BuildingSite
  | .call builder s =>
    match w.builders builder with
    | none => { w with builders := Function.update w.builders builder (some (.waiting s)) }
    | some _ => w
  | .read builder =>
    match w.builders builder with
    | some (.waiting s) =>
      let reading := .building s w.registry.functions w.registry.generation
      { w with builders := Function.update w.builders builder (some reading) }
    | _ => w
  | .insert builder =>
    match w.builders builder with
    | some (.building s functions generation) =>
      match w.registry.insertBuilt? generation (.build functions w.registry.stamp s) with
      | some registry => { registry, builders := Function.update w.builders builder none }
      | none => { w with builders := Function.update w.builders builder (some (.waiting s)) }
    | _ => w
  | .change m => { w with registry := w.registry.change m }

def run (actions : List Action) (w : BuildingSite) : BuildingSite := actions.foldl step w

/-- A service that is added without interruption is added in a single change. -/
theorem run_uninterrupted {w : BuildingSite} {builder : Nat} (h : w.builders builder = none) (s : Service) :
    w.run [.call builder s, .read builder, .insert builder] = w.step (.change (.addService s)) := by
  have hidle : Function.update w.builders builder none = w.builders := by
    rw [← h]
    exact Function.update_eq_self builder _
  simp only [run, List.foldl_cons, List.foldl_nil, step, h, Function.update_self, Function.update_idem,
    Registry.insertBuilt?, if_true, hidle, Registry.change, Registry.addService, Option.getD_some]

/-- What the registry undergoes in a step. A service that comes too late is not added. -/
def changes (w : BuildingSite) : Action → List Mutation
  | .insert builder =>
    match w.builders builder with
    | some (.building s _ generation) => if w.registry.generation = generation then [.addService s] else []
    | _ => []
  | .change m => [m]
  | .call .. | .read _ => []

def history : List Action → BuildingSite → List Mutation
  | [], _ => []
  | x :: actions, w => w.changes x ++ history actions (w.step x)

/-- The functions that somebody builds for are those of the registry, as long as their generation is. -/
def Attentive (w : BuildingSite) : Prop :=
  ∀ builder s functions generation, w.builders builder = some (.building s functions generation) →
    generation ≤ w.registry.generation ∧ (w.registry.generation = generation → w.registry.functions = functions)

namespace Attentive
variable {w : BuildingSite}

theorem opening : Attentive {} := fun _ _ _ _ h => nomatch h

/-- Somebody else takes a step. -/
private theorem update (h : w.Attentive) (builder : Nat) {b : Option Builder}
    (hb : ∀ s functions generation, b = some (.building s functions generation) →
      generation ≤ w.registry.generation ∧ (w.registry.generation = generation → w.registry.functions = functions)) :
    Attentive { w with builders := Function.update w.builders builder b } := by
  intro i s functions generation hi
  dsimp only at hi
  rw [Function.update_apply] at hi
  split at hi
  · exact hb s functions generation hi
  · exact h i s functions generation hi

/-- A new generation is none that anybody has read. -/
theorem change (h : w.Attentive) (m : Mutation) : (w.step (.change m)).Attentive := by
  intro builder s functions generation hbuilder
  obtain ⟨hle, hread⟩ := h builder s functions generation hbuilder
  change generation ≤ (w.registry.change m).generation ∧
    ((w.registry.change m).generation = generation → (w.registry.change m).functions = functions)
  rcases w.registry.generation_change m with ⟨hfunctions, hgeneration⟩ | hgeneration
  · rw [hfunctions, hgeneration]
    exact ⟨hle, hread⟩
  · rw [hgeneration]
    exact ⟨Nat.le_succ_of_le hle, fun hnew => absurd (hnew ▸ hle) (Nat.not_succ_le_self _)⟩

/-- What is built for functions that are still there is what an addition in a single step builds. -/
theorem insertBuilt?_eq (h : w.Attentive) {builder : Nat} {s : Service} {functions : FunctionTable} {generation : Nat}
    (hbuilder : w.builders builder = some (.building s functions generation)) :
    w.registry.insertBuilt? generation (.build functions w.registry.stamp s) =
      if w.registry.generation = generation then some (w.registry.change (.addService s)) else none := by
  by_cases hgeneration : w.registry.generation = generation
  · have hfunctions := (h builder s functions generation hbuilder).2 hgeneration
    rw [if_pos hgeneration, ← hgeneration, ← hfunctions, Registry.change, Registry.addService, Registry.insertBuilt?,
      if_pos rfl, Option.getD_some]
  · rw [if_neg hgeneration, Registry.insertBuilt?, if_neg hgeneration]

theorem insert (h : w.Attentive) (builder : Nat) :
    (w.step (.insert builder)).Attentive ∧
      (w.step (.insert builder)).registry = (w.changes (.insert builder)).foldl Registry.change w.registry := by
  cases hbuilder : w.builders builder with
  | none =>
    simp only [BuildingSite.step, changes, hbuilder]
    exact ⟨h, rfl⟩
  | some b =>
    cases b with
    | waiting s =>
      simp only [BuildingSite.step, changes, hbuilder]
      exact ⟨h, rfl⟩
    | building s functions generation =>
      simp only [BuildingSite.step, changes, hbuilder, h.insertBuilt?_eq hbuilder]
      by_cases hgeneration : w.registry.generation = generation
      · rw [if_pos hgeneration, if_pos hgeneration]
        exact ⟨(h.change (.addService s)).update builder (fun _ _ _ hnone => nomatch hnone), rfl⟩
      · rw [if_neg hgeneration, if_neg hgeneration]
        exact ⟨h.update builder (fun _ _ _ hwaiting => nomatch hwaiting), rfl⟩

/-- Every step is of the changes that it makes. -/
theorem step (h : w.Attentive) (x : Action) :
    (w.step x).Attentive ∧ (w.step x).registry = (w.changes x).foldl Registry.change w.registry := by
  cases x with
  | call builder s =>
    cases hbuilder : w.builders builder with
    | none =>
      simp only [BuildingSite.step, changes, hbuilder]
      exact ⟨h.update builder (fun _ _ _ hwaiting => nomatch hwaiting), rfl⟩
    | some _ =>
      simp only [BuildingSite.step, changes, hbuilder]
      exact ⟨h, rfl⟩
  | read builder =>
    simp only [BuildingSite.step, changes]
    split
    · refine ⟨h.update builder fun s functions generation hreading => ?_, rfl⟩
      obtain ⟨-, rfl, rfl⟩ := Builder.building.inj (Option.some.inj hreading)
      exact ⟨Nat.le_refl _, fun _ => rfl⟩
    · exact ⟨h, rfl⟩
  | insert builder => exact h.insert builder
  | change m => exact ⟨h.change m, rfl⟩

/-- A run is of the changes in its history. -/
theorem run (h : w.Attentive) (actions : List Action) :
    (w.run actions).Attentive ∧ (w.run actions).registry = (history actions w).foldl Registry.change w.registry := by
  induction actions generalizing w with
  | nil => exact ⟨h, rfl⟩
  | cons x actions ih =>
    obtain ⟨hattentive, hregistry⟩ := h.step x
    rw [history, List.foldl_append, ← hregistry]
    exact ih hattentive

end Attentive

/-- However services are built and the registry changes, every condition that is kept in a service was compiled for
the functions that the registry has at that moment. -/
theorem functions_of_kept (actions : List Action) {name id : String} {s : LoadedService} {k : CompiledCondition}
    (loaded : (run actions {}).registry.service? name = some s)
    (kept : s.policies.condition? id = some k ∨ s.rolePolicies.condition? id = some k) :
    k.functions = (run actions {}).registry.functions := by
  have hkeeps : (run actions {}).registry.Keeps (.after (history actions {})) := by
    rw [(Attentive.opening.run actions).2]
    exact Registry.keeps_after _
  obtain ⟨live, hlive⟩ := hkeeps.service loaded
  rcases kept with hk | hk
  · exact hlive.policies.functions_eq hk
  · exact hlive.rolePolicies.functions_eq hk

section Overtaken

def library : Service where
  name := "library"
  policies := [{ id := "1", effect := .grant, condition := some "open()" }]
  rolePolicies := [{ id := "2", effect := .grant, roles := ["reader"], condition := some "true" }]

/-- A function is added while a service is built. The service comes too late, and is built again. -/
def overtaken : List Action :=
  [.call 0 library, .read 0, .change (.addFunction { name := "open" }), .insert 0, .read 0, .insert 0]

theorem functions_of_kept_overtaken : (run (overtaken.take 4) {}).registry.service? "library" = none ∧
    ∃ s k, (run overtaken {}).registry.service? "library" = some s ∧ s.policies.condition? "1" = some k ∧
      k.functions = (run overtaken {}).registry.functions := by
  refine ⟨rfl, ?_⟩
  have hkept : (((run overtaken {}).registry.service? "library").bind (·.policies.condition? "1")).isSome := by
    decide +kernel
  obtain ⟨k, hk⟩ := Option.isSome_iff_exists.mp hkept
  obtain ⟨s, loaded, hk⟩ := Option.bind_eq_some_iff.mp hk
  exact ⟨s, k, loaded, hk, functions_of_kept overtaken loaded (.inl hk)⟩

end Overtaken

end BuildingSite
end Turnstile

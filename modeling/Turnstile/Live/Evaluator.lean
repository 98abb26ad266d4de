import Turnstile.Config
import Turnstile.Evaluation.Evaluator
import Turnstile.Live.Synchronisation

/-! An evaluator that is bound to a store, and the work it does between requests. -/
namespace Turnstile

structure LiveEvaluator (σ α : Type) where
  evaluator : Evaluator σ
  resolver : σ
  store : α
  registry : Registry
  /-- Not stopped. -/
  running : Bool := true
  /-- It watches the store. -/
  follows : Bool := true
  /-- Seconds between sweeps of the cached results. -/
  sweepInterval : Nat
  /-- Seconds since the start. -/
  age : Nat := 0

namespace LiveEvaluator
variable {σ α β : Type} [PolicyStore α]

/-- Reads the store, and then watches it if that is wanted. -/
def start (config : Config) (evaluator : Evaluator σ) (resolver : σ) (store : α) :
    Except Error (LiveEvaluator σ α) := do
  config.validate
  let (loaded, registry) := Loading.reload store { updates := some [] }
  loaded
  let store ← if config.enableWatch then PolicyStore.watch store else pure store
  return {
    evaluator, resolver, store, registry
    follows := config.enableWatch
    sweepInterval := config.sweepInterval.toNat }

/-- Changes what is loaded and leaves the store alone. -/
def load (e : LiveEvaluator σ α) (l : Loading β) : Except Error β × LiveEvaluator σ α :=
  let (a, registry) := l e.registry
  (a, { e with registry })

def refresh (e : LiveEvaluator σ α) : Except Error Unit × LiveEvaluator σ α :=
  e.load (Loading.reload e.store)

/-- Applies the first event that waits. Its failure is not fatal. -/
def consume (e : LiveEvaluator σ α) : LiveEvaluator σ α :=
  if e.running && e.follows then
    match PolicyStore.pending e.store with
    | [] => e
    | event :: _ =>
      { (e.load (Loading.apply e.store event.change)).2 with store := PolicyStore.take e.store }
  else e

/-- Applies the condition updates that wait. -/
def publish (e : LiveEvaluator σ α) : LiveEvaluator σ α :=
  { e with registry := e.registry.applyUpdates }

/-- Does all the work that waits. -/
def settle (e : LiveEvaluator σ α) : LiveEvaluator σ α :=
  ((PolicyStore.pending e.store).foldl (fun e _ => e.consume) e).publish

/-- Drops the results that have expired. -/
def clean (e : LiveEvaluator σ α) (now : Int) : Nat × LiveEvaluator σ α :=
  let (n, registry) := e.registry.cleanResults now
  (n, { e with registry })

/-- Time passes. Sweeps are due at the multiples of their interval. -/
def advance (e : LiveEvaluator σ α) (seconds : Nat) (now : Int) : LiveEvaluator σ α :=
  let age := e.age + seconds
  let due := e.running && e.age / e.sweepInterval < age / e.sweepInterval
  { if due then (e.clean now).2 else e with age }

/-- From here on nothing happens between requests. -/
def stop (e : LiveEvaluator σ α) : LiveEvaluator σ α :=
  { e with
    store := PolicyStore.stopWatch e.store
    running := false
    registry := { e.registry with updates := none } }

/-- Allows a request and keeps it for later study. -/
def discover (e : LiveEvaluator σ α) (request : Request) :
    Except Error (Decision × LiveEvaluator σ α) := do
  let store ← PolicyStore.record e.store request
  return (.allow .discoverMode, { e with store })

/-- Puts a question to the evaluator. -/
def ask (e : LiveEvaluator σ α)
    (question : Evaluator σ → StateM (σ × Registry) (Except Error β)) :
    Except Error β × LiveEvaluator σ α :=
  let (a, resolver, registry) := question e.evaluator (e.resolver, e.registry)
  (a, { e with resolver, registry })

end LiveEvaluator
end Turnstile

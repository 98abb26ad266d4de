import Turnstile.Function.ResultCache
import Turnstile.Function.Table

/-! Calls of functions. Custom functions are computed elsewhere, by something with a state. -/
namespace Turnstile

/-- Answers calls of custom functions. -/
abbrev Resolver (σ : Type) := FunctionDefinition → List Json → StateM σ (Except Error Json)

namespace FunctionDefinition
variable {σ : Type}

/-- A result that is still good is not computed again. Failures are not kept. -/
def call (d : FunctionDefinition) (resolve : Resolver σ) (now : Int) (args : List Json) :
    StateM (σ × ResultCache) (Except Error Json) := fun (s, cache) =>
  let key := ResultCache.key d.name args
  match cache.get now key with
  | (some v, cache) => (.ok v, s, cache)
  | (none, cache) =>
    match resolve d args s with
    | (.error e, s) => (.error e, s, cache)
    | (.ok v, s) =>
      (.ok v, s, if d.cachable then cache.insert now key v d.lifetime else cache)

end FunctionDefinition

/-- The function applied to arguments. -/
def Function.call {σ : Type} (f : Function) (resolve : Resolver σ) (now : Int) (args : List Json) :
    StateM (σ × ResultCache) (Except Error Json) :=
  match f with
  | .builtin b => pure (b.apply args)
  | .custom d => d.call resolve now args

end Turnstile

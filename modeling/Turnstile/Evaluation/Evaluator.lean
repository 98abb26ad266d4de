import Turnstile.Evaluation.Answer

/-! Questions about requests, answered from what is loaded. -/
namespace Turnstile

structure Evaluator (σ : Type) where
  /-- Computes custom functions. -/
  resolve : Resolver σ
  /-- Checks tokens. -/
  asserter : Option TokenAsserter := none

namespace Evaluator
variable {σ α : Type}

/-- Answers a request. Results of functions are kept, and conditions compiled on the way wait for
being applied if somebody applies them. -/
def answer (e : Evaluator σ) (now : ClockTime) (request : Request)
    (f : Surroundings σ → Inquiry → Evaluation σ α) : StateM (σ × Registry) (Except Error α) :=
  fun (resolver, r) =>
    match r.inquire e.asserter now request with
    | .error err => (.error err, resolver, r)
    | .ok q =>
      let (a, s) := f ⟨e.resolve, now.seconds⟩ q { resolver, results := r.results }
      (.ok a, s.resolver, { r with
        results := s.results
        updates := r.updates.map (· ++ s.compiled) })

def diagnose (e : Evaluator σ) (now : ClockTime) (request : Request) :
    StateM (σ × Registry) (Except Error Diagnosis) :=
  e.answer now request fun w q => q.decide w request

def isAllowed (e : Evaluator σ) (now : ClockTime) (request : Request) :
    StateM (σ × Registry) (Except Error Decision) := do
  return (← e.diagnose now request).map fun d => ⟨d.allowed, d.reason⟩

/-- The roles of the subject, in order of name. -/
def grantedRoles (e : Evaluator σ) (now : ClockTime) (request : Request) :
    StateM (σ × Registry) (Except Error (List String)) :=
  e.answer now request fun w q => return (← q.roles w).toList

/-- What the subject may do on named resources. -/
def grantedPermissions (e : Evaluator σ) (now : ClockTime) (request : Request) :
    StateM (σ × Registry) (Except Error (List Permission)) :=
  e.answer now request fun w q => q.permissions w

end Evaluator
end Turnstile

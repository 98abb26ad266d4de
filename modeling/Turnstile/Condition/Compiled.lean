import Turnstile.Condition.Eval
import Turnstile.Condition.Parser
import Turnstile.Function.Call

/-! Conditions ready for evaluation, each bound to the functions of its time. -/
namespace Turnstile

open Condition (Expr Failure Value Scope Eval)

structure CompiledCondition where
  expression : String
  program : Expr
  functions : FunctionTable
  /-- The program is read from the text. -/
  parsed : Expr.ofText? expression = some program

namespace CompiledCondition
variable {σ : Type}

def compile (expression : String) (functions : FunctionTable) :
    Except Failure CompiledCondition :=
  match parsed : Expr.ofText? expression with
  | some program => .ok ⟨expression, program, functions, parsed⟩
  | none => .error (.unparsable expression)

/-- A function of the table as conditions call it. -/
def callable (resolve : Resolver σ) (now : Int) (name : String) (f : Function)
    (args : List Value) : Eval (σ × ResultCache) Value := fun s =>
  match f.call resolve now (args.map Value.toJson) s with
  | (.ok v, s) => (.ok (Value.ofJson v), s)
  | (.error e, s) => (.error (.functionFailed name e.message), s)

def scope (resolve : Resolver σ) (now : Int) (functions : FunctionTable) (attributes : Dict Json) :
    Scope (σ × ResultCache) where
  values := attributes.map Value.ofJson
  functions name := (functions.get? name).map (callable resolve now name)

/-- A condition holds, does not hold, or fails. -/
def evaluate (c : CompiledCondition) (resolve : Resolver σ) (now : Int) (attributes : Dict Json) :
    StateM (σ × ResultCache) (Except Failure Bool) := fun s =>
  match c.program.eval (scope resolve now c.functions attributes) s with
  | (.error fault, s) => (.error (.faulty c.expression fault), s)
  | (.ok (.bool b), s) => (.ok b, s)
  | (.ok v, s) => (.error (.notBoolean c.expression v.kind), s)

end CompiledCondition
end Turnstile

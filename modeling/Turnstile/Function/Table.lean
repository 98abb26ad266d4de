import Turnstile.Function.Builtin
import Turnstile.Policy.Basic

/-! The functions by name. -/
namespace Turnstile

inductive Function where
  | builtin (b : Builtin)
  | custom (definition : FunctionDefinition)
deriving DecidableEq

abbrev FunctionTable := Dict Function

namespace FunctionTable

def builtins : FunctionTable := .ofList (Builtin.all.map fun b => (b.name, .builtin b))

/-- A custom function takes the place of whatever had the name. -/
def withCustom (t : FunctionTable) (name : String) (d : FunctionDefinition) : FunctionTable :=
  Dict.insert t name (.custom d)

/-- Only custom functions can be removed. -/
def withoutCustom (t : FunctionTable) (name : String) : FunctionTable :=
  match Dict.get? t name with
  | some (.custom _) => Dict.erase t name
  | _ => t

def customNames (t : FunctionTable) : List String :=
  t.entries.filterMap fun e =>
    match e.2 with
    | .custom _ => some e.1
    | .builtin _ => none

end FunctionTable
end Turnstile

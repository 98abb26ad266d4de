import Turnstile.Error
import Turnstile.Request
import Turnstile.Store.Change

/-! Where services and functions come from. -/
namespace Turnstile

class PolicyStore (α : Type) where
  kind : String
  /-- Everything. -/
  snapshot : α → Except Error Snapshot
  service : α → String → Except Error Service
  policy : α → String → String → Except Error Policy
  rolePolicy : α → String → String → Except Error RolePolicy
  function : α → String → Except Error FunctionDefinition
  /-- From here on there is a watcher, which waits for events. -/
  watch : α → Except Error α
  stopWatch : α → α
  /-- The events that the watcher has not taken yet, in order. -/
  pending : α → List Event
  /-- The watcher takes the first of the events. -/
  take : α → α
  /-- Keeps a request for later study, if the store can. -/
  record : α → Request → Except Error α := fun _ _ =>
    .error (.discover ("unsupported store type of discovery function: " ++ kind))

end Turnstile

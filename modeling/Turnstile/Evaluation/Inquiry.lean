import Turnstile.Evaluation.Attributes
import Turnstile.Registry.Basic

/-! Requests resolved against what is loaded. -/
namespace Turnstile

/-- Checks the token of a subject and may add principals to it. -/
abbrev TokenAsserter := Subject → Except Error Subject

/-- A token is checked if there is somebody to check it and need for it. All errors count as a
failed assertion. -/
def Subject.assert (asserter : Option TokenAsserter) (s : Subject) : Except Error Subject :=
  match asserter with
  | none => .ok s
  | some check =>
    if s.needsAssertion then
      match check s with
      | .ok s => .ok { s with asserted := true }
      | .error (.tokenAssertion m) => .error (.tokenAssertion m)
      | .error e => .error (.tokenAssertion e.message)
    else .ok s

/-- A principal with a domain counts as the one without it, too. -/
def Principal.encodings (p : Principal) : List String :=
  p.canonical :: if p.domain.isEmpty then [] else [p.withoutDomain.canonical]

namespace Subject

def encodingsOf (s : Subject) (kind : String) : List String :=
  (s.principals.filter (·.kind = kind)).flatMap Principal.encodings

/-- The principals of a subject before its roles are known: the users, entities and groups that it
presents, and the roles that come with that. -/
def effectivePrincipals (s : Subject) : List String :=
  let users := s.encodingsOf "user"
  let entities := s.encodingsOf "entity"
  let groups := s.encodingsOf "group"
  Role.principal Role.everyone ::
    (if users.isEmpty && groups.isEmpty && entities.isEmpty then [Role.principal Role.anonymous]
    else users ++ entities ++ [Role.principal Role.authenticated]) ++ groups

end Subject

structure Inquiry where
  /-- The target service and, unless it is the target, the global one. -/
  services : List LoadedService
  functions : FunctionTable
  resource : String
  action : String
  /-- Before roles are resolved. -/
  principals : List String
  attributes : Dict Json
  /-- With its token checked. -/
  subject : Option Subject

namespace Registry

/-- The service is looked up before the token is checked. -/
def inquire (r : Registry) (asserter : Option TokenAsserter) (now : ClockTime) (q : Request) :
    Except Error Inquiry :=
  match r.service? q.service with
  | none => .error (.serviceNotFound q.service)
  | some target => do
    let subject ← match q.subject with
      | some s => (s.assert asserter).map some
      | none => .ok none
    let global := if q.service = Service.globalName then none else r.global?
    .ok {
      services := target :: global.toList
      functions := r.functions
      resource := q.resource
      action := q.action
      principals := (subject.getD {}).effectivePrincipals
      attributes := Attributes.ofRequest now subject q
      subject := subject }

end Registry
end Turnstile

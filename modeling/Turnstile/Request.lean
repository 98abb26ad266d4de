import Turnstile.Principal

/-! Requests for an action on a resource. -/
namespace Turnstile

structure Subject where
  principals : List Principal := []
  tokenKind : String := ""
  token : String := ""
  /-- The token has been checked. -/
  asserted : Bool := false
deriving DecidableEq, Inhabited

namespace Subject

def withPrincipal (s : Subject) (p : Principal) : Subject :=
  { s with principals := s.principals ++ [p] }

def withToken (s : Subject) (tokenKind token : String) : Subject := { s with tokenKind, token }

/-- There is a token, and it has not been checked. -/
def needsAssertion (s : Subject) : Bool :=
  !s.asserted && !s.tokenKind.isEmpty && !s.token.isEmpty

def decoder : Decoder Subject :=
  .record "Subject" (mk <$> .withDefault "principals" (.list Principal.decoder) []
    <*> .withDefault "tokenType" .string "" <*> .withDefault "token" .string ""
    <*> .withDefault "asserted" .bool false)

def toJson (s : Subject) : Json :=
  .record [("principals", some (Json.list Principal.toJson s.principals)),
    ("tokenType", Json.nonEmptyText s.tokenKind), ("token", Json.nonEmptyText s.token),
    ("asserted", some (.bool s.asserted))]

end Subject

structure Request where
  /-- A request without a subject is anonymous. -/
  subject : Option Subject := none
  service : String
  resource : String := ""
  action : String := ""
  attributes : Dict Json := .empty
deriving DecidableEq, Inhabited

namespace Request

def withSubject (r : Request) (subject : Subject) : Request := { r with subject := some subject }

def withAttribute (r : Request) (name : String) (v : Json) : Request :=
  { r with attributes := r.attributes.insert name v }

def decoder : Decoder Request :=
  .record "RequestContext" (mk <$> .optional "subject" Subject.decoder
    <*> .required "serviceName" .string <*> .withDefault "resource" .string ""
    <*> .withDefault "action" .string "" <*> .withDefault "attributes" (.dict .json) .empty)

def toJson (r : Request) : Json :=
  .record [("subject", r.subject.map Subject.toJson), ("serviceName", some (.string r.service)),
    ("resource", some (.string r.resource)), ("action", some (.string r.action)),
    ("attributes", Json.nonEmptyDict id r.attributes)]

end Request
end Turnstile

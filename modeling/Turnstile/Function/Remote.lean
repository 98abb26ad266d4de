import Turnstile.Function.Call
import Turnstile.Function.Certificate
import Turnstile.Policy.Codec

/-! Calls of functions at other places. The arguments are posted to the address of the function; a delegator takes all
calls, and the definitions of the functions along with them. -/
namespace Turnstile.Remote

/-- The text before `://`. -/
def scheme? (url : String) : Option String := go [] url.toList
where
  go (before : List Char) : List Char → Option String
    | ':' :: '/' :: '/' :: _ => some (.ofList before.reverse)
    | c :: r => go (c :: before) r
    | [] => none

structure Response where
  status : Nat
  body : String

/-- What makes clients and sends requests. Where something fails it says why. -/
structure Transport (σ Certificate Client : Type) where
  certificate : String → Except String Certificate
  /-- A client that trusts the usual certificates, and another one if it is given. -/
  client : Option Certificate → Except String Client
  /-- Posts a value to an address, and receives the whole response. -/
  send : Client → String → Json → StateM σ (Except String Response)
  /-- The name that a status has, if any. -/
  statusName? : Nat → Option String

/-- The content of a response. -/
structure Answer where
  result : Json := .null
  error : String := ""

def Answer.decoder : Decoder Answer :=
  .record "FunctionResponse" (mk <$> .withDefault "result" .json .null <*> .withDefault "error" .string "")

/-- The result of the function at an address, or its failure. -/
def Response.read (r : Response) (url : String) (statusName? : Nat → Option String) : Except Error Json :=
  if r.status = 200 then
    match Answer.decoder.ofText r.body with
    | .ok answer => if answer.error.isEmpty then .ok answer.result else .error (.customFunction answer.error)
    | .error e => .error (.customFunction s!"invalid response from {url}: {e.message}")
  else
    let name := (statusName? r.status).getD "<unknown status code>"
    .error (.customFunction s!"call to {url} returned status {r.status} {name}")

def request (args : List Json) : Json := .record [("params", some (.array args))]

/-- What a delegator is sent. -/
def delegatedRequest (d : FunctionDefinition) (args : List Json) : Json :=
  .record [("function", some d.toJson), ("request", some (request args))]

/-- What is posted where. The authority, if the text is not empty, is to be trusted for it. -/
structure Posting where
  url : String
  authority : String
  body : Json

/-- Without a delegator the address must have one of two schemes, and only the safe one looks at certificates. -/
def posting (delegator : Option String) (d : FunctionDefinition) (args : List Json) : Except Error Posting :=
  match delegator with
  | some endpoint => .ok ⟨endpoint, "", delegatedRequest d args⟩
  | none =>
    match scheme? d.url with
    | some "https" => .ok ⟨d.url, d.authority, request args⟩
    | some "http" => .ok ⟨d.url, "", request args⟩
    | _ => .error (.customFunction s!"unsupported function URL {d.url}")

namespace Transport
variable {σ Certificate Client : Type} (t : Transport σ Certificate Client)

/-- A client that trusts an authority, which the empty text does not name. -/
def clientFor (authority : String) : Except Error Client := do
  let certificate ←
    if authority.isEmpty then pure none
    else ((t.certificate authority).map some).mapError fun m =>
      .customFunction s!"invalid CA certificate: {m}"
  (t.client certificate).mapError fun m => .customFunction s!"failed to build client: {m}"

def post (p : Posting) : StateM σ (Except Error Json) := fun s =>
  match t.clientFor p.authority with
  | .error e => (.error e, s)
  | .ok client =>
    match t.send client p.url p.body s with
    | (.error m, s) => (.error (.customFunction s!"call to {p.url} failed: {m}"), s)
    | (.ok response, s) => (response.read p.url t.statusName?, s)

def resolve (delegator : Option String) : Resolver σ := fun d args =>
  match posting delegator d args with
  | .error e => pure (.error e)
  | .ok p => t.post p

/-- Nothing can be reached. Some authorities can be used. -/
def offline (isUsable : String → Bool) : Transport Unit String Unit where
  certificate := .ok
  client certificate := if certificate.all isUsable then .ok () else .error ""
  send _ _ _ := pure (.error "")
  statusName? _ := none

end Transport

/-- Why a call fails when nothing can be reached. -/
def refusal (delegator : Option String) (d : FunctionDefinition) : Error :=
  match ((Transport.offline Certificate.isUsable).resolve delegator d [] ()).1 with
  | .error e => e
  | .ok _ => default

end Turnstile.Remote

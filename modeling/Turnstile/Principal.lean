import Turnstile.Json.Decode
import Turnstile.Json.Encode

/-! Principals are compared by their canonical text alone. -/
namespace Turnstile

structure Principal where
  /-- Such as `user`, `group`, `role` or `entity`. -/
  kind : String
  name : String
  /-- The identity domain; empty means none. -/
  domain : String := ""
deriving DecidableEq, Inhabited

namespace Principal

def user (name : String) : Principal := ⟨"user", name, ""⟩
def group (name : String) : Principal := ⟨"group", name, ""⟩
def entity (name : String) : Principal := ⟨"entity", name, ""⟩
def role (name : String) : Principal := ⟨"role", name, ""⟩

/-- `[idd=<domain>:]<kind>:<name>` -/
def canonical (p : Principal) : String :=
  if p.domain.isEmpty then s!"{p.kind}:{p.name}" else s!"idd={p.domain}:{p.kind}:{p.name}"

def withDomain (p : Principal) (domain : String) : Principal := { p with domain }

def withoutDomain (p : Principal) : Principal := p.withDomain ""

def decoder : Decoder Principal :=
  .record "Principal" (mk <$> .required "type" .string <*> .required "name" .string
    <*> .withDefault "idd" .string "")

def toJson (p : Principal) : Json :=
  .record [("type", some (.string p.kind)), ("name", some (.string p.name)),
    ("idd", Json.nonEmptyText p.domain)]

end Principal

namespace Role

/-- Held by every subject. -/
def everyone : String := "everyone_role"

/-- Held by subjects that present no user, group or entity. -/
def anonymous : String := "anonymous_role"

/-- Held by subjects that present a user, a group or an entity. -/
def authenticated : String := "authenticated_role"

/-- The principal that stands for the holders of a role. -/
def principal (role : String) : String := "role:" ++ role

/-- The role that a principal stands for. -/
def ofPrincipal? (principal : String) : Option String :=
  (go "role:".toList principal.toList).map .ofList
where
  go : List Char → List Char → Option (List Char)
    | [], cs => some cs
    | _ :: _, [] => none
    | p :: ps, c :: cs => if p = c then go ps cs else none

end Role
end Turnstile

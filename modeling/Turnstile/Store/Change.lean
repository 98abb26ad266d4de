import Turnstile.Store.Listing

/-! What those who follow a store are told. -/
namespace Turnstile

/-- A policy or a role policy of a service. -/
structure ItemReference where
  service : String
  id : String
deriving DecidableEq, Inhabited

namespace ItemReference

def decoder : Decoder ItemReference :=
  .record "ItemRef" (mk <$> .required "serviceName" .string <*> .required "id" .string)

def toJson (r : ItemReference) : Json :=
  .record [("serviceName", some (.string r.service)), ("id", some (.string r.id))]

end ItemReference

structure ServicePolicy where
  service : String
  policy : Policy
deriving DecidableEq, Inhabited

namespace ServicePolicy

def decoder : Decoder ServicePolicy :=
  .record "ServicePolicy" (mk <$> .required "serviceName" .string
    <*> .required "policy" Policy.decoder)

def toJson (p : ServicePolicy) : Json :=
  .record [("serviceName", some (.string p.service)), ("policy", some p.policy.toJson)]

end ServicePolicy

structure ServiceRolePolicy where
  service : String
  policy : RolePolicy
deriving DecidableEq, Inhabited

namespace ServiceRolePolicy

def decoder : Decoder ServiceRolePolicy :=
  .record "ServiceRolePolicy" (mk <$> .required "serviceName" .string
    <*> .required "rolePolicy" RolePolicy.decoder)

def toJson (p : ServiceRolePolicy) : Json :=
  .record [("serviceName", some (.string p.service)), ("rolePolicy", some p.policy.toJson)]

end ServiceRolePolicy

inductive Change where
  | serviceAdded (service : Service)
  | servicesDeleted (names : List String)
  | policiesAdded (policies : List ServicePolicy)
  | policiesDeleted (items : List ItemReference)
  | rolePoliciesAdded (policies : List ServiceRolePolicy)
  | rolePoliciesDeleted (items : List ItemReference)
  | functionAdded (function : FunctionDefinition)
  | functionsDeleted (names : List String)
  /-- What is loaded is to be compared with a listing. -/
  | listed (listing : Listing)
  /-- Everything is to be read again. -/
  | replaced
deriving DecidableEq, Inhabited

namespace Change

/-- The kind of a change and what it says. -/
def describe : Change → String × Json
  | serviceAdded s => ("service_add", s.toJson)
  | servicesDeleted names => ("service_delete", Json.strings names)
  | policiesAdded l => ("policy_add", Json.list ServicePolicy.toJson l)
  | policiesDeleted l => ("policy_delete", Json.list ItemReference.toJson l)
  | rolePoliciesAdded l => ("role_policy_add", Json.list ServiceRolePolicy.toJson l)
  | rolePoliciesDeleted l => ("role_policy_delete", Json.list ItemReference.toJson l)
  | functionAdded d => ("function_add", d.toJson)
  | functionsDeleted names => ("function_delete", Json.strings names)
  | listed l => ("sync_reload", l.toJson)
  | replaced => ("full_reload", .null)

/-- Reads what a change of some kind says. -/
def decoder (kind : String) : Decoder Change :=
  match kind with
  | "service_add" => Service.decoder.map serviceAdded
  | "service_delete" => (Decoder.list .string).map servicesDeleted
  | "policy_add" => (Decoder.list ServicePolicy.decoder).map policiesAdded
  | "policy_delete" => (Decoder.list ItemReference.decoder).map policiesDeleted
  | "role_policy_add" => (Decoder.list ServiceRolePolicy.decoder).map rolePoliciesAdded
  | "role_policy_delete" => (Decoder.list ItemReference.decoder).map rolePoliciesDeleted
  | "function_add" => FunctionDefinition.decoder.map functionAdded
  | "function_delete" => (Decoder.list .string).map functionsDeleted
  | "sync_reload" => Listing.decoder.map listed
  | _ => fun _ _ => .ok replaced

end Change

structure Event where
  /-- Events of one store are numbered in order. -/
  number : Nat
  change : Change
deriving DecidableEq, Inhabited

def Event.toJson (e : Event) : Json :=
  let (kind, content) := e.change.describe
  .obj [("id", .int e.number), ("kind", .string kind), ("content", content)]

end Turnstile

import Turnstile.Policy.Basic
import Turnstile.Json.Decode
import Turnstile.Json.Encode

/-! The written form of policies, services and functions. -/
namespace Turnstile

def metadataField : Fields (Dict String) := .withDefault "metadata" (.dict .string) .empty

def strings (name : String) : Fields (List String) := .withDefault name (.list .string) []

namespace Effect

def decoder : Decoder Effect := .choice all name

def toJson (e : Effect) : Json := .string e.name

end Effect

namespace Permission

def decoder : Decoder Permission :=
  .record "Permission" (mk <$> .withDefault "resource" .string ""
    <*> .withDefault "resourceExpression" .string "" <*> strings "actions")

def toJson (p : Permission) : Json :=
  .record [("resource", Json.nonEmptyText p.resource),
    ("resourceExpression", Json.nonEmptyText p.expression),
    ("actions", some (Json.strings p.actions))]

end Permission

namespace Policy

def decoder : Decoder Policy :=
  .record "Policy" (mk <$> .required "id" .string <*> .withDefault "name" .string ""
    <*> .required "effect" Effect.decoder
    <*> .withDefault "permissions" (.list Permission.decoder) []
    <*> .withDefault "principals" (.list (.list .string)) []
    <*> .optional "condition" .string <*> metadataField)

def toJson (p : Policy) : Json :=
  .record [("id", some (.string p.id)), ("name", some (.string p.name)),
    ("effect", some p.effect.toJson),
    ("permissions", some (Json.list Permission.toJson p.permissions)),
    ("principals", some (Json.list Json.strings p.principals)),
    ("condition", p.condition.map .string),
    ("metadata", Json.nonEmptyDict .string p.metadata)]

end Policy

namespace RolePolicy

def decoder : Decoder RolePolicy :=
  .record "RolePolicy" (mk <$> .required "id" .string <*> .withDefault "name" .string ""
    <*> .required "effect" Effect.decoder <*> strings "roles" <*> strings "principals"
    <*> strings "resources" <*> strings "resourceExpressions"
    <*> .optional "condition" .string <*> metadataField)

def toJson (p : RolePolicy) : Json :=
  .record [("id", some (.string p.id)), ("name", some (.string p.name)),
    ("effect", some p.effect.toJson), ("roles", some (Json.strings p.roles)),
    ("principals", some (Json.strings p.principals)),
    ("resources", some (Json.strings p.resources)),
    ("resourceExpressions", some (Json.strings p.expressions)),
    ("condition", p.condition.map .string),
    ("metadata", Json.nonEmptyDict .string p.metadata)]

end RolePolicy

namespace Service

def decoder : Decoder Service :=
  .record "Service" (mk <$> .required "name" .string <*> .optional "type" .string
    <*> .withDefault "policies" (.list Policy.decoder) []
    <*> .withDefault "rolePolicies" (.list RolePolicy.decoder) [] <*> metadataField)

def toJson (s : Service) : Json :=
  .record [("name", some (.string s.name)), ("type", s.kind.map .string),
    ("policies", some (Json.list Policy.toJson s.policies)),
    ("rolePolicies", some (Json.list RolePolicy.toJson s.rolePolicies)),
    ("metadata", Json.nonEmptyDict .string s.metadata)]

end Service

namespace FunctionDefinition

def decoder : Decoder FunctionDefinition :=
  .record "FunctionDef" (mk <$> .required "name" .string <*> .withDefault "description" .string ""
    <*> .withDefault "funcURL" .string "" <*> .withDefault "localFuncURL" .string ""
    <*> .withDefault "ca" .string "" <*> .withDefault "resultCachable" .bool false
    <*> .withDefault "resultTTL" .int64 0 <*> metadataField)

def toJson (f : FunctionDefinition) : Json :=
  .record [("name", some (.string f.name)), ("description", some (.string f.description)),
    ("funcURL", some (.string f.url)), ("localFuncURL", some (.string f.localUrl)),
    ("ca", some (.string f.authority)), ("resultCachable", some (.bool f.cachable)),
    ("resultTTL", some (Json.int64 f.lifetime)),
    ("metadata", Json.nonEmptyDict .string f.metadata)]

end FunctionDefinition

namespace Snapshot

def decoder : Decoder Snapshot :=
  .record "PolicyStoreSnapshot" (mk
    <$> .withDefault "functions" (.list FunctionDefinition.decoder) []
    <*> .withDefault "services" (.list Service.decoder) [])

def toJson (s : Snapshot) : Json :=
  .record [("functions", some (Json.list FunctionDefinition.toJson s.functions)),
    ("services", some (Json.list Service.toJson s.services))]

end Snapshot
end Turnstile

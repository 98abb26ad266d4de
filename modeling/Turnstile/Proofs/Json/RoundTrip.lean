import Turnstile.Config
import Turnstile.Diagnosis
import Turnstile.Store.Change
import Turnstile.Proofs.Json.Reading

/-! Everything that is written can be read again. The fields of each record are followed in order; a member that is
left out when it is empty has the empty value as its default. -/
namespace Turnstile

open Decoder Fields

namespace Effect

theorem reads_toJson (e : Effect) : decoder.Reads e.toJson e :=
  reads_choice (by cases e <;> decide)

end Effect

namespace Reason

theorem reads_toJson (r : Reason) : decoder.Reads r.toJson r :=
  reads_choice (by cases r <;> decide)

end Reason

namespace Outcome

theorem reads_toJson (o : Outcome) : decoder.Reads o.toJson o :=
  reads_choice (by cases o <;> decide)

end Outcome

theorem reads_metadata (m : Dict String) : metadataField.Reads [("metadata", Json.nonEmptyDict .string m)] m :=
  reads_nonEmptyDict fun s _ => reads_string s

namespace Permission

theorem reads_toJson (p : Permission) : decoder.Reads p.toJson p :=
  reads_record (reads_nonEmptyText p.resource |>.map mk
    |>.seq (reads_nonEmptyText p.expression)
    |>.seq (reads_present (reads_strings p.actions))) (by rfl) (by decide)

end Permission

namespace Policy

theorem reads_toJson (p : Policy) : decoder.Reads p.toJson p :=
  reads_record (reads_present (reads_string p.id) |>.map mk
    |>.seq (reads_present (reads_string p.name))
    |>.seq (reads_present p.effect.reads_toJson)
    |>.seq (reads_present (reads_list fun q _ => q.reads_toJson))
    |>.seq (reads_present (reads_list fun l _ => reads_strings l))
    |>.seq (reads_optional Json.string fun s _ => ⟨reads_string s, nofun⟩)
    |>.seq (reads_metadata p.metadata)) (by rfl) (by decide)

end Policy

namespace RolePolicy

theorem reads_toJson (p : RolePolicy) : decoder.Reads p.toJson p :=
  reads_record (reads_present (reads_string p.id) |>.map mk
    |>.seq (reads_present (reads_string p.name))
    |>.seq (reads_present p.effect.reads_toJson)
    |>.seq (reads_present (reads_strings p.roles))
    |>.seq (reads_present (reads_strings p.principals))
    |>.seq (reads_present (reads_strings p.resources))
    |>.seq (reads_present (reads_strings p.expressions))
    |>.seq (reads_optional Json.string fun s _ => ⟨reads_string s, nofun⟩)
    |>.seq (reads_metadata p.metadata)) (by rfl) (by decide)

end RolePolicy

namespace Service

theorem reads_toJson (s : Service) : decoder.Reads s.toJson s :=
  reads_record (reads_present (reads_string s.name) |>.map mk
    |>.seq (reads_optional Json.string fun t _ => ⟨reads_string t, nofun⟩)
    |>.seq (reads_present (reads_list fun p _ => p.reads_toJson))
    |>.seq (reads_present (reads_list fun p _ => p.reads_toJson))
    |>.seq (reads_metadata s.metadata)) (by rfl) (by decide)

end Service

namespace FunctionDefinition

theorem reads_toJson (f : FunctionDefinition) : decoder.Reads f.toJson f :=
  reads_record (reads_present (reads_string f.name) |>.map mk
    |>.seq (reads_present (reads_string f.description))
    |>.seq (reads_present (reads_string f.url))
    |>.seq (reads_present (reads_string f.localUrl))
    |>.seq (reads_present (reads_string f.authority))
    |>.seq (reads_present (reads_bool f.cachable))
    |>.seq (reads_present (reads_int64 f.lifetime))
    |>.seq (reads_metadata f.metadata)) (by rfl) (by decide)

end FunctionDefinition

namespace Snapshot

theorem reads_toJson (s : Snapshot) : decoder.Reads s.toJson s :=
  reads_record (reads_present (reads_list fun f _ => f.reads_toJson) |>.map mk
    |>.seq (reads_present (reads_list fun t _ => t.reads_toJson))) (by rfl) (by decide)

end Snapshot

namespace Principal

theorem reads_toJson (p : Principal) : decoder.Reads p.toJson p :=
  reads_record (reads_present (reads_string p.kind) |>.map mk
    |>.seq (reads_present (reads_string p.name))
    |>.seq (reads_nonEmptyText p.domain)) (by rfl) (by decide)

end Principal

namespace Subject

theorem reads_toJson (s : Subject) : decoder.Reads s.toJson s :=
  reads_record (reads_present (reads_list fun p _ => p.reads_toJson) |>.map mk
    |>.seq (reads_nonEmptyText s.tokenKind)
    |>.seq (reads_nonEmptyText s.token)
    |>.seq (reads_present (reads_bool s.asserted))) (by rfl) (by decide)

end Subject

namespace Request

theorem reads_toJson (r : Request) (h : ∀ v ∈ r.attributes.values, v.Ordered) : decoder.Reads r.toJson r :=
  reads_record (reads_optional Subject.toJson (fun s _ => ⟨s.reads_toJson, nofun⟩) |>.map mk
    |>.seq (reads_present (reads_string r.service))
    |>.seq (reads_present (reads_string r.resource))
    |>.seq (reads_present (reads_string r.action))
    |>.seq (reads_nonEmptyDict fun v hv => json_ofJson (h v hv))) (by rfl) (by decide)

end Request

namespace Decision

theorem reads_toJson (d : Decision) : decoder.Reads d.toJson d :=
  reads_record (reads_present (reads_bool d.allowed) |>.map mk
    |>.seq (reads_present d.reason.reads_toJson)) (by rfl) (by decide)

end Decision

namespace DiagnosedCondition

theorem reads_toJson (c : DiagnosedCondition) : decoder.Reads c.toJson c :=
  reads_record (reads_present (reads_string c.expression) |>.map mk
    |>.seq (reads_optional Json.bool fun b _ => ⟨reads_bool b, nofun⟩)) (by rfl) (by decide)

end DiagnosedCondition

namespace DiagnosedPolicy

theorem reads_toJson (p : DiagnosedPolicy) : decoder.Reads p.toJson p :=
  reads_record (reads_present p.outcome.reads_toJson |>.map mk
    |>.seq (reads_present (reads_string p.id))
    |>.seq (reads_nonEmptyText p.name)
    |>.seq (reads_present p.effect.reads_toJson)
    |>.seq (reads_nonEmptyList fun q _ => q.reads_toJson)
    |>.seq (reads_nonEmptyList fun l _ => reads_strings l)
    |>.seq (reads_optional DiagnosedCondition.toJson fun c _ => ⟨c.reads_toJson, nofun⟩)) (by rfl) (by decide)

end DiagnosedPolicy

namespace DiagnosedRolePolicy

theorem reads_toJson (p : DiagnosedRolePolicy) : decoder.Reads p.toJson p :=
  reads_record (reads_present p.outcome.reads_toJson |>.map mk
    |>.seq (reads_present (reads_string p.id))
    |>.seq (reads_nonEmptyText p.name)
    |>.seq (reads_present p.effect.reads_toJson)
    |>.seq (reads_present (reads_strings p.roles))
    |>.seq (reads_nonEmptyList fun s _ => reads_string s)
    |>.seq (reads_nonEmptyList fun s _ => reads_string s)
    |>.seq (reads_nonEmptyList fun s _ => reads_string s)
    |>.seq (reads_optional DiagnosedCondition.toJson fun c _ => ⟨c.reads_toJson, nofun⟩)) (by rfl) (by decide)

end DiagnosedRolePolicy

namespace Diagnosis

theorem reads_toJson (d : Diagnosis) (hrequest : ∀ v ∈ d.request.attributes.values, v.Ordered)
    (h : ∀ v ∈ d.attributes.values, v.Ordered) : decoder.Reads d.toJson d :=
  reads_record (reads_present (reads_bool d.allowed) |>.map mk
    |>.seq (reads_present d.reason.reads_toJson)
    |>.seq (reads_present (d.request.reads_toJson hrequest))
    |>.seq (reads_present (reads_attributes h))
    |>.seq (reads_present (reads_strings d.grantedRoles))
    |>.seq (reads_present (reads_list fun p _ => p.reads_toJson))
    |>.seq (reads_present (reads_list fun p _ => p.reads_toJson))) (by rfl) (by decide)

end Diagnosis

namespace Listing

theorem reads_toJson (l : Listing) : decoder.Reads l.toJson l :=
  reads_record (reads_present (reads_strings l.services) |>.map mk
    |>.seq (reads_present (reads_dict fun s _ => reads_string s))
    |>.seq (reads_present (reads_dict fun s _ => reads_string s))
    |>.seq (reads_present (reads_strings l.functions))) (by rfl) (by decide)

end Listing

namespace ItemReference

theorem reads_toJson (r : ItemReference) : decoder.Reads r.toJson r :=
  reads_record (reads_present (reads_string r.service) |>.map mk
    |>.seq (reads_present (reads_string r.id))) (by rfl) (by decide)

end ItemReference

namespace ServicePolicy

theorem reads_toJson (p : ServicePolicy) : decoder.Reads p.toJson p :=
  reads_record (reads_present (reads_string p.service) |>.map mk
    |>.seq (reads_present p.policy.reads_toJson)) (by rfl) (by decide)

end ServicePolicy

namespace ServiceRolePolicy

theorem reads_toJson (p : ServiceRolePolicy) : decoder.Reads p.toJson p :=
  reads_record (reads_present (reads_string p.service) |>.map mk
    |>.seq (reads_present p.policy.reads_toJson)) (by rfl) (by decide)

end ServiceRolePolicy

namespace Config

/-- All settings are written; an endpoint that is absent is written as `null`. -/
theorem reads_toJson (c : Config) : decoder.Reads c.toJson c := by
  have hendpoint : (option string).Reads (.ofOption (c.functionEndpoint.map .string)) c.functionEndpoint := by
    cases c.functionEndpoint <;> rfl
  rw [toJson, Json.obj_eq_record]
  exact reads_record (reads_present (reads_bool c.enableWatch) |>.map mk
    |>.seq (reads_present hendpoint)
    |>.seq (reads_present (reads_uint64 c.functionTimeout))
    |>.seq (reads_present (reads_uint64 c.sweepInterval))
    |>.seq (reads_present (reads_count c.eventBuffer))) (by rfl) (by decide)

end Config

/-- What the description of a change says is read as the change, whichever kind it has. -/
theorem Change.reads_describe (c : Change) : (Change.decoder c.describe.1).Reads c.describe.2 c := by
  cases c with
  | serviceAdded s => exact s.reads_toJson.map _
  | servicesDeleted names => exact (reads_strings names).map _
  | policiesAdded l => exact (reads_list fun p _ => p.reads_toJson).map _
  | policiesDeleted l => exact (reads_list fun r _ => r.reads_toJson).map _
  | rolePoliciesAdded l => exact (reads_list fun p _ => p.reads_toJson).map _
  | rolePoliciesDeleted l => exact (reads_list fun r _ => r.reads_toJson).map _
  | functionAdded f => exact f.reads_toJson.map _
  | functionsDeleted names => exact (reads_strings names).map _
  | listed l => exact l.reads_toJson.map _
  | replaced => rfl

/-- Every value that is written is read back, whichever of its members are empty, absent or at their defaults.
Attributes are any values that can be read. -/
theorem reads_written :
    (∀ s : Snapshot, Snapshot.decoder.Reads s.toJson s) ∧
      (∀ s : Service, Service.decoder.Reads s.toJson s) ∧
      (∀ p : Policy, Policy.decoder.Reads p.toJson p) ∧
      (∀ p : RolePolicy, RolePolicy.decoder.Reads p.toJson p) ∧
      (∀ p : Permission, Permission.decoder.Reads p.toJson p) ∧
      (∀ f : FunctionDefinition, FunctionDefinition.decoder.Reads f.toJson f) ∧
      (∀ p : Principal, Principal.decoder.Reads p.toJson p) ∧
      (∀ s : Subject, Subject.decoder.Reads s.toJson s) ∧
      (∀ r : Request, (∀ v ∈ r.attributes.values, v.Ordered) → Request.decoder.Reads r.toJson r) ∧
      (∀ d : Decision, Decision.decoder.Reads d.toJson d) ∧
      (∀ p : DiagnosedPolicy, DiagnosedPolicy.decoder.Reads p.toJson p) ∧
      (∀ p : DiagnosedRolePolicy, DiagnosedRolePolicy.decoder.Reads p.toJson p) ∧
      (∀ d : Diagnosis, (∀ v ∈ d.request.attributes.values, v.Ordered) →
        (∀ v ∈ d.attributes.values, v.Ordered) →
        Diagnosis.decoder.Reads d.toJson d) ∧
      (∀ l : Listing, Listing.decoder.Reads l.toJson l) ∧
      (∀ r : ItemReference, ItemReference.decoder.Reads r.toJson r) ∧
      (∀ p : ServicePolicy, ServicePolicy.decoder.Reads p.toJson p) ∧
      (∀ p : ServiceRolePolicy, ServiceRolePolicy.decoder.Reads p.toJson p) ∧
      (∀ c : Config, Config.decoder.Reads c.toJson c) :=
  ⟨Snapshot.reads_toJson, Service.reads_toJson, Policy.reads_toJson, RolePolicy.reads_toJson, Permission.reads_toJson,
    FunctionDefinition.reads_toJson, Principal.reads_toJson, Subject.reads_toJson, Request.reads_toJson,
    Decision.reads_toJson, DiagnosedPolicy.reads_toJson, DiagnosedRolePolicy.reads_toJson, Diagnosis.reads_toJson,
    Listing.reads_toJson, ItemReference.reads_toJson, ServicePolicy.reads_toJson, ServiceRolePolicy.reads_toJson,
    Config.reads_toJson⟩

/-- A request about something that belongs to somebody. -/
def Request.ofOwned : Request :=
  Request.withAttribute { service := "crm" } "owner"
    (.object [("groups", Json.strings ["staff"]), ("level", .int 3)])

theorem reads_written_owned :
    (∀ v ∈ Request.ofOwned.attributes.values, v.Ordered) ∧
      Request.decoder.Reads Request.ofOwned.toJson Request.ofOwned ∧
      Diagnosis.decoder.Reads (Diagnosis.toJson { request := .ofOwned, attributes := Request.ofOwned.attributes })
        { request := .ofOwned, attributes := Request.ofOwned.attributes } := by
  have howner : ∀ v ∈ Request.ofOwned.attributes.values, v.Ordered := by decide +kernel
  obtain ⟨-, -, -, -, -, -, -, -, hrequest, -, -, -, hdiagnosis, -⟩ := reads_written
  exact ⟨howner, hrequest _ howner, hdiagnosis _ howner howner⟩

end Turnstile

import Turnstile.Policy.Codec

/-! What a store holds, by name. -/
namespace Turnstile

structure Listing where
  services : List String := []
  /-- The service of every policy. -/
  policies : Dict String := .empty
  /-- The service of every role policy. -/
  rolePolicies : Dict String := .empty
  functions : List String := []
deriving DecidableEq, Inhabited

namespace Listing

def addService (l : Listing) (s : Service) : Listing where
  services := l.services ++ [s.name]
  policies := s.policies.foldl (fun d p => d.insert p.id s.name) l.policies
  rolePolicies := s.rolePolicies.foldl (fun d p => d.insert p.id s.name) l.rolePolicies
  functions := l.functions

/-- An identifier that several services use is listed for the last of them. -/
def ofSnapshot (s : Snapshot) : Listing :=
  s.services.foldl addService { functions := s.functions.map (·.name) }

def decoder : Decoder Listing :=
  .record "SyncDataSet" (mk <$> .required "services" (.list .string)
    <*> .required "policies" (.dict .string) <*> .required "rolePolicies" (.dict .string)
    <*> .required "functions" (.list .string))

def toJson (l : Listing) : Json :=
  .record [("services", some (Json.strings l.services)),
    ("policies", some (Json.dict .string l.policies)),
    ("rolePolicies", some (Json.dict .string l.rolePolicies)),
    ("functions", some (Json.strings l.functions))]

end Listing
end Turnstile

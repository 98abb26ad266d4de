import Turnstile.Error
import Turnstile.Json.Decode
import Turnstile.Json.Encode
import Turnstile.Toml.Document

/-! Settings of a live evaluator. -/
namespace Turnstile

structure Config where
  /-- Follow the changes of the store. -/
  enableWatch : Bool := true
  /-- Where calls of custom functions are sent instead of their own addresses. -/
  functionEndpoint : Option String := none
  /-- Seconds that a custom function may take. -/
  functionTimeout : UInt64 := 5
  /-- Seconds between sweeps of the cached results. -/
  sweepInterval : UInt64 := 1800
  /-- How many events a store may keep for a watcher. -/
  eventBuffer : UInt64 := 256
deriving DecidableEq, Inhabited

namespace Config

def positive (name : String) (n : UInt64) : Except Error Unit :=
  if n = 0 then .error (.config (name ++ " must be greater than 0")) else .ok ()

def validate (c : Config) : Except Error Unit := do
  positive "function_call_timeout_secs" c.functionTimeout
  positive "result_sweep_interval_secs" c.sweepInterval
  positive "event_buffer" c.eventBuffer

def decoder : Decoder Config :=
  .record "EvaluatorConfig" (mk <$> .withDefault "enable_watch" .bool true
    <*> .optional "function_service_endpoint" .string
    <*> .withDefault "function_call_timeout_secs" .uint64 5
    <*> .withDefault "result_sweep_interval_secs" .uint64 1800
    <*> .withDefault "event_buffer" .count 256)

def toJson (c : Config) : Json :=
  .obj [("enable_watch", .bool c.enableWatch),
    ("function_service_endpoint", .ofOption (c.functionEndpoint.map .string)),
    ("function_call_timeout_secs", Json.uint64 c.functionTimeout),
    ("result_sweep_interval_secs", Json.uint64 c.sweepInterval),
    ("event_buffer", Json.uint64 c.eventBuffer)]

def unreadable (detail : String) : Error := .config ("Failed to parse configuration: " ++ detail)

/-- A setting that may be absent. Unknown settings are passed over. -/
def setting {α : Type} (ms : Toml.Members) (name : String) (read : Toml.Node → Option α)
    (fallback : α) : Except Error α :=
  match ms.find? name with
  | none => .ok fallback
  | some n =>
    match read n with
    | some a => .ok a
    | none => .error (unreadable s!"unexpected value of {name}")

def asBool : Toml.Node → Option Bool
  | .bool b => some b
  | _ => none

def asText : Toml.Node → Option (Option String)
  | .string s => some (some s)
  | _ => none

def asCount : Toml.Node → Option UInt64
  | .integer i => if 0 ≤ i then some (.ofNat i.toNat) else none
  | _ => none

def ofMembers (ms : Toml.Members) : Except Error Config := do
  return {
    enableWatch := ← setting ms "enable_watch" asBool true
    functionEndpoint := ← setting ms "function_service_endpoint" asText none
    functionTimeout := ← setting ms "function_call_timeout_secs" asCount 5
    sweepInterval := ← setting ms "result_sweep_interval_secs" asCount 1800
    eventBuffer := ← setting ms "event_buffer" asCount 256 }

/-- Settings from a text, checked. -/
def ofText (text : String) : Except Error Config := do
  match Toml.read? text with
  | none => throw (unreadable "malformed text")
  | some ms =>
    let c ← ofMembers ms
    c.validate
    return c

/-- Settings from the content of a file, which may be missing. -/
def ofFile (content : Option String) : Except Error Config :=
  content.elim (.error .fileMissing) ofText

end Config
end Turnstile

import Turnstile.Json.Print

/-! Results of functions, kept until they expire. -/
namespace Turnstile

structure CachedResult where
  result : Json
  /-- The last second in which the result is good; 0 means for ever. -/
  expiry : Int
deriving DecidableEq

namespace CachedResult

def isLive (r : CachedResult) (now : Int) : Bool := r.expiry = 0 || now ≤ r.expiry

/-- When a result expires that is to be kept for some seconds. One whose lifetime is not positive is kept for ever.
The sum has 64 bits and wraps around. -/
def expiryAfter (now : Int) (lifetime : Int64) : Int :=
  if 0 < lifetime.toInt then (Int64.ofInt now + lifetime).toInt else 0

end CachedResult

structure ResultCache where
  entries : Dict CachedResult := .empty
deriving DecidableEq, Inhabited

namespace ResultCache

/-- `name(first, second)`, with the arguments as compact text. -/
def key (name : String) (args : List Json) : String :=
  .ofList (name.toList ++ '(' :: (List.intercalate [',', ' '] (args.map Json.render) ++ [')']))

/-- An expired result is dropped when it is asked for. -/
def get (c : ResultCache) (now : Int) (key : String) : Option Json × ResultCache :=
  match c.entries.get? key with
  | some r => if r.isLive now then (some r.result, c) else (none, ⟨c.entries.erase key⟩)
  | none => (none, c)

def insertEntry (c : ResultCache) (key : String) (r : CachedResult) : ResultCache :=
  ⟨c.entries.insert key r⟩

/-- The lifetime is in seconds. -/
def insert (c : ResultCache) (now : Int) (key : String) (result : Json) (lifetime : Int64) :
    ResultCache :=
  c.insertEntry key ⟨result, CachedResult.expiryAfter now lifetime⟩

/-- The key belongs to a call of the function. -/
def isCallOf (name key : String) : Bool := (name.toList ++ ['(']).isPrefixOf key.toList

def purge (c : ResultCache) (name : String) : ResultCache :=
  ⟨c.entries.filter fun k _ => !isCallOf name k⟩

/-- Drops what has expired and counts it. -/
def clean (c : ResultCache) (now : Int) : Nat × ResultCache :=
  let kept := c.entries.filter fun _ r => r.isLive now
  (c.entries.size - kept.size, ⟨kept⟩)

end ResultCache
end Turnstile

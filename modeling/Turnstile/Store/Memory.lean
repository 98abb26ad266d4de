import Turnstile.Store.Basic
import Turnstile.Store.Edit

/-! A store that lives in memory. -/
namespace Turnstile

/-- The one that follows a store. -/
inductive Watcher where
  | absent
  /-- With the events that it has not taken yet. -/
  | present (pending : List Event)
  /-- It takes no more events, and the store has not noticed. -/
  | gone
deriving DecidableEq, Inhabited

structure MemoryStore where
  snapshot : Snapshot := {}
  watcher : Watcher := .absent
  nextEvent : Nat := 1
  /-- Requests that were recorded. -/
  recorded : List Request := []
deriving DecidableEq, Inhabited

namespace MemoryStore

def ofText (text : String) : Except Error MemoryStore :=
  match Snapshot.decoder.ofText text with
  | .ok snapshot => .ok { snapshot }
  | .error e => .error (.store ("invalid policy store file: " ++ e.message))

def isWatched (s : MemoryStore) : Bool := s.watcher ≠ .absent

def pending (s : MemoryStore) : List Event :=
  match s.watcher with
  | .present events => events
  | _ => []

/-- Tells the watcher. One that is gone is noticed then. -/
def emit (s : MemoryStore) (c : Change) : MemoryStore :=
  match s.watcher with
  | .absent => s
  | .present events => { s with
      watcher := .present (events ++ [⟨s.nextEvent, c⟩])
      nextEvent := s.nextEvent + 1 }
  | .gone => { s with watcher := .absent, nextEvent := s.nextEvent + 1 }

/-- The first half of an edit. -/
def write (s : MemoryStore) (e : Edit) : Except Error MemoryStore := do
  return { s with snapshot := ← e.apply s.snapshot }

/-- An edit that fails is not announced. -/
def edit (s : MemoryStore) (e : Edit) : Except Error MemoryStore := do
  return (← s.write e).emit e.change

/-- A new watcher takes the place of an earlier one. -/
def watch (s : MemoryStore) : MemoryStore := { s with watcher := .present [] }

def stopWatch (s : MemoryStore) : MemoryStore := { s with watcher := .absent }

/-- The watcher leaves without a word. -/
def loseWatcher (s : MemoryStore) : MemoryStore :=
  match s.watcher with
  | .absent => s
  | _ => { s with watcher := .gone }

def take (s : MemoryStore) : MemoryStore :=
  match s.watcher with
  | .present events => { s with watcher := .present events.tail }
  | _ => s

def record (s : MemoryStore) (r : Request) : MemoryStore := { s with recorded := s.recorded ++ [r] }

instance : PolicyStore MemoryStore where
  kind := "memory"
  snapshot s := .ok s.snapshot
  service s := s.snapshot.service
  policy s := s.snapshot.policy
  rolePolicy s := s.snapshot.rolePolicy
  function s := s.snapshot.function
  watch s := .ok s.watch
  stopWatch := stopWatch
  pending := pending
  take := take
  record s r := .ok (s.record r)

end MemoryStore
end Turnstile

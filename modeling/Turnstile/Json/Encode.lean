import Turnstile.Json.Basic

/-! How the parts of records are written. -/
namespace Turnstile.Json

/-- A member that is left out when it is empty. -/
def nonEmptyText (s : String) : Option Json := if s.isEmpty then none else some (.string s)

def list {α : Type} (f : α → Json) (l : List α) : Json := .array (l.map f)

def nonEmptyList {α : Type} (f : α → Json) (l : List α) : Option Json :=
  if l.isEmpty then none else some (list f l)

def dict {α : Type} (f : α → Json) (d : Dict α) : Json := .ofDict (d.map f)

def nonEmptyDict {α : Type} (f : α → Json) (d : Dict α) : Option Json :=
  if d.isEmpty then none else some (dict f d)

def int64 (n : Int64) : Json := .int n.toInt

def uint64 (n : UInt64) : Json := .int n.toNat

end Turnstile.Json

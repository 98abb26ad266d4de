import Turnstile.Condition.Compiled
import Turnstile.Policy.Basic
import Turnstile.Resource.Index

/-! Policies and role policies by identifier, found through their principals and resources. -/
namespace Turnstile

/-- What a cache needs to know about its entries. -/
class Rule (α : Type) where
  id : α → String
  condition? : α → Option String
  /-- Distinct principals that lead to the entry; none mean that every principal does. -/
  principals : α → List String
  coverage : α → List Coverage

def distinct (l : List String) : List String :=
  (l.foldl (fun seen a => if seen.contains a then seen else a :: seen) []).reverse

def Permission.coverage (p : Permission) : List Coverage :=
  (if p.coversEverything then [.everything] else []) ++
    (if p.resource.isEmpty then [] else [.resource p.resource]) ++
    (if p.expression.isEmpty then [] else [.expression p.expression])

instance : Rule Policy where
  id p := p.id
  condition? p := p.condition?
  principals p := distinct p.principals.flatten
  coverage p :=
    if p.permissions.isEmpty then [.everything] else p.permissions.flatMap Permission.coverage

instance : Rule RolePolicy where
  id p := p.id
  condition? p := p.condition?
  principals p := distinct p.principals
  coverage p :=
    if p.coversEverything then [.everything]
    else p.resources.map .resource ++ p.expressions.map .expression

structure RuleCache (α : Type) where
  entries : Dict α := .empty
  /-- Compiled conditions by entry. -/
  conditions : Dict CompiledCondition := .empty
  byPrincipal : Dict ResourceIndex := .empty
  /-- The entries that name no principal. -/
  forEveryone : ResourceIndex := {}
deriving Inhabited

namespace RuleCache
variable {α : Type} [Rule α]

def empty : RuleCache α := {}

def coverBy (a : α) (x : ResourceIndex) : ResourceIndex :=
  (Rule.coverage a).foldl (fun x c => x.insert c (Rule.id a)) x

def uncoverBy (a : α) (x : ResourceIndex) : ResourceIndex :=
  (Rule.coverage a).foldl (fun x c => x.remove c (Rule.id a)) x

def uncoverAt (a : α) (d : Dict ResourceIndex) (principal : String) : Dict ResourceIndex :=
  match d.get? principal with
  | none => d
  | some x =>
    let left := uncoverBy a x
    if left.isEmpty then d.erase principal else d.insert principal left

def unlink (c : RuleCache α) (a : α) : RuleCache α :=
  match Rule.principals a with
  | [] => { c with forEveryone := uncoverBy a c.forEveryone }
  | ps => { c with byPrincipal := ps.foldl (uncoverAt a) c.byPrincipal }

def link (c : RuleCache α) (a : α) : RuleCache α :=
  match Rule.principals a with
  | [] => { c with forEveryone := coverBy a c.forEveryone }
  | ps => { c with byPrincipal := ps.foldl (fun d p => d.update p {} (coverBy a)) c.byPrincipal }

def get? (c : RuleCache α) (id : String) : Option α := c.entries.get? id

def condition? (c : RuleCache α) (id : String) : Option CompiledCondition := c.conditions.get? id

def remove (c : RuleCache α) (id : String) : RuleCache α :=
  match c.entries.get? id with
  | none => c
  | some a =>
    unlink { c with entries := c.entries.erase id, conditions := c.conditions.erase id } a

/-- Takes the place of an entry with the same identifier. -/
def add (c : RuleCache α) (a : α) (condition : Option CompiledCondition) : RuleCache α :=
  let c := link (c.remove (Rule.id a)) a
  { c with
    entries := c.entries.insert (Rule.id a) a
    conditions := condition.elim c.conditions (c.conditions.insert (Rule.id a)) }

/-- The entries that name no principal or one of those given, by identifier; with a resource, only
those that cover it. -/
def related (c : RuleCache α) (principals : List String) (resource : Option String) : Dict α :=
  let found (x : ResourceIndex) : NameSet := resource.elim x.all x.matching
  let indexes := c.forEveryone :: principals.filterMap c.byPrincipal.get?
  let ids : NameSet := indexes.foldl (fun s x => Dict.union s (found x)) .empty
  c.entries.filter fun id _ => ids.contains id

/-- Without effect when the entry is gone. -/
def setCondition (c : RuleCache α) (id : String) (condition : CompiledCondition) : RuleCache α :=
  if c.entries.contains id then { c with conditions := c.conditions.insert id condition } else c

def clearConditions (c : RuleCache α) : RuleCache α := { c with conditions := .empty }

def ids (c : RuleCache α) : List String := c.entries.keys

def size (c : RuleCache α) : Nat := c.entries.size

def isEmpty (c : RuleCache α) : Bool := c.byPrincipal.isEmpty && c.forEveryone.isEmpty

end RuleCache
end Turnstile

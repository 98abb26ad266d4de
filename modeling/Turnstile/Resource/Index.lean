import Turnstile.Resource.Pattern
import Turnstile.Resource.PrefixTree

/-! Which identifiers cover a resource. Literal parts of expressions are kept in prefix trees, those
of suffixes back to front; only generic expressions are matched one by one. -/
namespace Turnstile

/-- Resources that an entry covers. -/
inductive Coverage where
  | everything
  | resource (name : String)
  | expression (e : String)
deriving DecidableEq

structure ResourceIndex where
  any : NameSet := .empty
  exact : Dict NameSet := .empty
  starts : PrefixTree := .empty
  ends : PrefixTree := .empty
  generic : Dict NameSet := .empty
deriving Inhabited

namespace ResourceIndex

def addTo (d : Dict NameSet) (key id : String) : Dict NameSet :=
  d.update key .empty (NameSet.add · id)

/-- A key without identifiers is dropped. -/
def dropFrom (d : Dict NameSet) (key id : String) : Dict NameSet :=
  match d.get? key with
  | none => d
  | some ids =>
    let left : NameSet := Dict.erase ids id
    if left.isEmpty then d.erase key else d.insert key left

def insert (x : ResourceIndex) (c : Coverage) (id : String) : ResourceIndex :=
  match c with
  | .everything => { x with any := x.any.add id }
  | .resource name => { x with exact := addTo x.exact name id }
  | .expression e =>
    match ResourcePattern.classify e with
    | .startsWith literal => { x with starts := x.starts.insert literal id }
    | .endsWith literal => { x with ends := x.ends.insert literal.reverse id }
    | .everything => { x with any := x.any.add id }
    | .generic => { x with generic := addTo x.generic e id }

def remove (x : ResourceIndex) (c : Coverage) (id : String) : ResourceIndex :=
  match c with
  | .everything => { x with any := Dict.erase x.any id }
  | .resource name => { x with exact := dropFrom x.exact name id }
  | .expression e =>
    match ResourcePattern.classify e with
    | .startsWith literal => { x with starts := x.starts.remove literal id }
    | .endsWith literal => { x with ends := x.ends.remove literal.reverse id }
    | .everything => { x with any := Dict.erase x.any id }
    | .generic => { x with generic := dropFrom x.generic e id }

def unions (sets : List NameSet) : NameSet := sets.foldl Dict.union .empty

/-- The identifiers that cover a resource. -/
def matching (x : ResourceIndex) (resource : String) : NameSet :=
  let text := resource.toList
  let generic := x.generic.entries.filterMap fun e =>
    if expressionMatches e.1 resource then some e.2 else none
  unions (x.any :: (x.exact.get? resource).toList ++ x.starts.along text ++
    x.ends.along text.reverse ++ generic)

def all (x : ResourceIndex) : NameSet :=
  unions (x.any :: x.exact.values ++ x.starts.all ++ x.ends.all ++ x.generic.values)

def isEmpty (x : ResourceIndex) : Bool :=
  x.exact.isEmpty && x.starts.isEmpty && x.ends.isEmpty && x.generic.isEmpty && x.any.isEmpty

end ResourceIndex
end Turnstile

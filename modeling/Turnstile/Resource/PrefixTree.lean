import Turnstile.Dict

/-! Sets of identifiers under keys, in a radix tree. An edge carries a piece of text; the labels of
siblings start with different characters. -/
namespace Turnstile

namespace PrefixTree

inductive Node where
  | mk (label : List Char) (ids : NameSet) (children : List Node)
deriving Inhabited

namespace Node

def label : Node → List Char
  | mk l _ _ => l

def ids : Node → NameSet
  | mk _ s _ => s

def children : Node → List Node
  | mk _ _ c => c

def leaf (label : List Char) (id : String) : Node := mk label (NameSet.ofList [id]) []

/-- The key goes on with the character that the label starts with. -/
def leads (n : Node) (key : List Char) : Bool := n.label.head? = key.head?

/-- The longest common prefix. -/
def common : List Char → List Char → List Char
  | a :: r, b :: s => if a = b then a :: common r s else []
  | _, _ => []

/-- Divides a label where a key leaves it; what was below moves down. -/
def split (n : Node) (shared rest : List Char) (id : String) : Node :=
  let moved := mk (n.label.drop shared.length) n.ids n.children
  if rest.isEmpty then mk shared (NameSet.ofList [id]) [moved]
  else mk shared .empty [moved, leaf rest id]

/-- A node without identifiers is dropped if it has no child, and joined with an only child. -/
def compact (n : Node) : Option Node :=
  if n.ids.isEmpty then
    match n.children with
    | [] => none
    | [child] => some (mk (n.label ++ child.label) child.ids child.children)
    | _ => some n
  else some n

mutual
/-- Also tells whether the key is new. -/
def insert (id : String) : Node → List Char → Node × Bool
  | mk l ids children, [] => (mk l (ids.add id) children, ids.isEmpty)
  | mk l ids children, c :: r =>
    let (children, created) := insertAmong id children (c :: r)
    (mk l ids children, created)

def insertAmong (id : String) : List Node → List Char → List Node × Bool
  | [], key => ([leaf key id], true)
  | n :: others, key =>
    if n.leads key then
      let shared := common n.label key
      let rest := key.drop shared.length
      if shared = n.label then
        let (n, created) := insert id n rest
        (n :: others, created)
      else (split n shared rest id :: others, true)
    else
      let (others, created) := insertAmong id others key
      (n :: others, created)
end

mutual
/-- Also tells whether the key lost its last identifier. -/
def remove (id : String) : Node → List Char → Node × Bool
  | mk l ids children, [] =>
    let left : NameSet := Dict.erase ids id
    (mk l left children, ids.contains id && left.isEmpty)
  | mk l ids children, c :: r =>
    let (children, dropped) := removeAmong id children (c :: r)
    (mk l ids children, dropped)

def removeAmong (id : String) : List Node → List Char → List Node × Bool
  | [], _ => ([], false)
  | n :: others, key =>
    if n.leads key then
      if n.label.isPrefixOf key then
        let (n, dropped) := remove id n (key.drop n.label.length)
        (n.compact.toList ++ others, dropped)
      else (n :: others, false)
    else
      let (others, dropped) := removeAmong id others key
      (n :: others, dropped)
end

mutual
/-- The sets of the keys that are prefixes of a path, shortest key first. -/
def along : Node → List Char → List NameSet
  | mk _ ids children, path =>
    (if ids.isEmpty then [] else [ids]) ++ alongAmong children path

def alongAmong : List Node → List Char → List NameSet
  | [], _ => []
  | n :: others, path =>
    if n.label.isPrefixOf path then along n (path.drop n.label.length) else alongAmong others path
end

mutual
/-- The sets of all keys. -/
def all : Node → List NameSet
  | mk _ ids children => (if ids.isEmpty then [] else [ids]) ++ allAmong children

def allAmong : List Node → List NameSet
  | [] => []
  | n :: others => all n ++ allAmong others
end

end Node
end PrefixTree

structure PrefixTree where
  root : PrefixTree.Node
  /-- How many keys are stored. -/
  size : Nat
deriving Inhabited

namespace PrefixTree

def empty : PrefixTree := ⟨.mk [] .empty [], 0⟩

def insert (t : PrefixTree) (key : List Char) (id : String) : PrefixTree :=
  let (root, created) := t.root.insert id key
  ⟨root, if created then t.size + 1 else t.size⟩

def remove (t : PrefixTree) (key : List Char) (id : String) : PrefixTree :=
  let (root, dropped) := t.root.remove id key
  ⟨root, if dropped then t.size - 1 else t.size⟩

def along (t : PrefixTree) (path : List Char) : List NameSet := t.root.along path

def all (t : PrefixTree) : List NameSet := t.root.all

def isEmpty (t : PrefixTree) : Bool := t.size = 0

end PrefixTree
end Turnstile

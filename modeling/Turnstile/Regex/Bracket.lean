import Turnstile.Regex.Escape

/-! Bracketed classes: items, ranges, nested brackets, named classes and set operations. -/
namespace Turnstile.Regex

inductive SetOp where
  | inter | diff | symmDiff
deriving DecidableEq

def SetOp.apply (f : Flags) (op : SetOp) (a b : CharClass) : CharClass :=
  match op with
  | inter => .inter (foldClass f a) (foldClass f b)
  | diff => .diff (foldClass f a) (foldClass f b)
  | symmDiff => .symmDiff (foldClass f a) (foldClass f b)

/-- An open bracket: the items read since the last operator, and the operator with its left side. -/
structure OpenBracket where
  negate : Bool
  items : CharClass := .empty
  pending : Option (SetOp × CharClass) := none

namespace OpenBracket

def add (b : OpenBracket) (k : CharClass) : OpenBracket := { b with items := .union b.items k }

/-- All that was read so far, with the pending operator applied. -/
def content (f : Flags) (b : OpenBracket) : CharClass :=
  match b.pending with
  | none => b.items
  | some (op, left) => op.apply f left b.items

def operator (f : Flags) (b : OpenBracket) (op : SetOp) : OpenBracket :=
  { negate := b.negate, pending := some (op, b.content f) }

end OpenBracket

/-- After an opening bracket: a caret negates, hyphens in front stand for themselves, and so does a
closing bracket that comes first. -/
def openBracket? (f : Flags) (cs : List Char) : Option (OpenBracket × List Char) :=
  let cs := skipBlank f cs
  let (negate, cs) := match cs with
    | '^' :: r => (true, skipBlank f r)
    | r => (false, r)
  let rec hyphens : Nat → List Char → Bool × List Char
    | n + 1, '-' :: r => (true, (hyphens n (skipBlank f r)).2)
    | _, r => (false, r)
  let (hadHyphen, cs) := hyphens cs.length cs
  let b : OpenBracket := { negate := negate }
  let b := if hadHyphen then b.add (.single '-') else b
  match cs with
  | [] => none
  | ']' :: r => if hadHyphen then some (b, ']' :: r) else some (b.add (.single ']'), r)
  | r => some (b, r)

/-- A class such as `[:alpha:]`; anything else is read as a nested bracket. -/
def posixClass? (cs : List Char) : Option (Bool × CharClass × List Char) :=
  match cs with
  | ':' :: r =>
    let (negate, r) := match r with
      | '^' :: r => (true, r)
      | r => (false, r)
    let name := r.takeWhile (· ≠ ':')
    match r.drop name.length with
    | ':' :: ']' :: rest => (CharClass.posix? (.ofList name)).map fun k => (negate, k, rest)
    | _ => none
  | _ => none

inductive BracketItem where
  | char (c : Char)
  | set (k : CharClass)

def bracketItem? (f : Flags) : List Char → Option (BracketItem × List Char)
  | [] => none
  | '\\' :: r =>
    match escape? f r with
    | some (.char c _, rest) =>
      if !f.unicode && 127 < c.toNat then none else some (.char c, rest)
    | some (.set k, rest) => some (.set k, rest)
    | _ => none
  | c :: r => if !f.unicode && 127 < c.toNat then none else some (.char c, r)

/-- One item or a range. A hyphen before a closing bracket or another hyphen starts no range. -/
def bracketRange? (f : Flags) (cs : List Char) : Option (CharClass × List Char) := do
  let (first, r) ← bracketItem? f cs
  let r := skipBlank f r
  let alone := match first with
    | .char c => (CharClass.single c, r)
    | .set k => (k, r)
  match r with
  | [] => none
  | '-' :: after =>
    match skipBlank f after with
    | ']' :: _ | '-' :: _ => some alone
    | after => do
      let (second, r) ← bracketItem? f after
      match first, second with
      | .char a, .char b => if a ≤ b then some (.range a b, r) else none
      | _, _ => none
  | _ => some alone

/-- Reads up to the closing bracket of the outermost class. -/
def bracketLoop (f : Flags) :
    Nat → OpenBracket → List OpenBracket → List Char → Option (CharClass × List Char)
  | 0, _, _, _ => none
  | fuel + 1, b, outer, cs =>
    match skipBlank f cs with
    | [] => none
    | '[' :: r =>
      match posixClass? r with
      | some (negate, k, rest) => do
        let k ← finishClass? f negate k
        bracketLoop f fuel (b.add k) outer rest
      | none =>
        if 250 ≤ outer.length then none
        else do
          let (inner, rest) ← openBracket? f r
          bracketLoop f fuel inner (b :: outer) rest
    | ']' :: r => do
      let k ← finishClass? f b.negate (b.content f)
      match outer with
      | [] => some (k, r)
      | o :: outer => bracketLoop f fuel (o.add k) outer r
    | '&' :: '&' :: r => bracketLoop f fuel (b.operator f .inter) outer r
    | '-' :: '-' :: r => bracketLoop f fuel (b.operator f .diff) outer r
    | '~' :: '~' :: r => bracketLoop f fuel (b.operator f .symmDiff) outer r
    | cs => do
      let (k, r) ← bracketRange? f cs
      bracketLoop f fuel (b.add k) outer r

/-- The class after an opening bracket. -/
def bracket? (f : Flags) (cs : List Char) : Option (CharClass × List Char) := do
  let (b, r) ← openBracket? f cs
  bracketLoop f (r.length + 1) b [] r

end Turnstile.Regex

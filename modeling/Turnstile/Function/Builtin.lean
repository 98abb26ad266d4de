import Turnstile.Error

/-! Functions that every condition can call. The numeric ones take numbers and lists of numbers. -/
namespace Turnstile

inductive Builtin where
  | sqrt
  | max
  | min
  | sum
  | avg
  | isSubset
deriving DecidableEq, Inhabited

namespace Builtin

def all : List Builtin := [sqrt, max, min, sum, avg, isSubset]

def name : Builtin → String
  | sqrt => "Sqrt"
  | max => "Max"
  | min => "Min"
  | sum => "Sum"
  | avg => "Avg"
  | isSubset => "IsSubSet"

def usage : Builtin → String
  | sqrt => "Usage: Sqrt(x)"
  | isSubset =>
    "Usage: IsSubSet(S1, S2) - S1 and S2 are both lists, tests if S1 is a subset of S2"
  | b => s!"Usage: {b.name}(x1, x2, ...), xi must be numeric"

def number? : Json → Option Binary64
  | .number n => some n.toBinary64
  | _ => none

def spread? : Json → Option (List Binary64)
  | .array items => items.mapM number?
  | v => (number? v).map ([·])

/-- The numbers among the arguments, lists of numbers spread out; `none` if there is anything
else. -/
def numbers? (args : List Json) : Option (List Binary64) := (args.mapM spread?).map List.flatten

def total (l : List Binary64) : Binary64 := l.foldl .add .negZero

def greater (x y : Binary64) : Binary64 := if x.lt y then y else x

def smaller (x y : Binary64) : Binary64 := if y.lt x then y else x

def fold? (f : Binary64 → Binary64 → Binary64) : List Binary64 → Option Binary64
  | [] => none
  | x :: r => some (r.foldl f x)

/-- Neither list is empty, the first is not the longer one, and its items are in the second. -/
def subset (a b : List Json) : Bool :=
  !a.isEmpty && !b.isEmpty && a.length ≤ b.length && a.all fun v => b.any v.same

def value? (b : Builtin) (args : List Json) : Option Json :=
  match b with
  | sqrt =>
    match args with
    | [x] => (number? x).map fun x => .float x.sqrt
    | _ => none
  | max => ((numbers? args).bind (fold? greater)).map .float
  | min => ((numbers? args).bind (fold? smaller)).map .float
  | sum => (numbers? args).map fun l => .float (total l)
  | avg => (numbers? args).map fun l =>
    .float (if l.isEmpty then .zero else (total l).div (.ofNat l.length))
  | isSubset =>
    match args with
    | [.array a, .array b] => some (.bool (subset a b))
    | _ => none

def apply (b : Builtin) (args : List Json) : Except Error Json :=
  match b.value? args with
  | some v => .ok v
  | none => .error (.builtinFunction b.usage)

end Builtin
end Turnstile

import Turnstile.Condition.Expr
import Turnstile.Condition.Fault
import Turnstile.Regex.Match
import Turnstile.Regex.Parser

/-! Operators, and the functions that belong to the language. -/
namespace Turnstile.Condition

inductive Standard where
  | contains
  | size
  | has
  | map
  | filter
  | all
  | max
  | startsWith
  | endsWith
  | string
  | bytes
  | double
  | exists
  | existsOne
  | int
  | uint
  | matches
  | duration
  | timestamp
deriving DecidableEq

namespace Standard

def ofName? : String → Option Standard
  | "contains" => some contains
  | "size" => some size
  | "has" => some has
  | "map" => some map
  | "filter" => some filter
  | "all" => some all
  | "max" => some max
  | "startsWith" => some startsWith
  | "endsWith" => some endsWith
  | "string" => some string
  | "bytes" => some bytes
  | "double" => some double
  | "exists" => some .exists
  | "exists_one" => some existsOne
  | "int" => some int
  | "uint" => some uint
  | "matches" => some .matches
  | "duration" => some duration
  | "timestamp" => some timestamp
  | _ => none

end Standard

namespace Value

def insertAll (a : List (Key × Value)) : List (Key × Value) → List (Key × Value)
  | [] => a
  | (k, v) :: r => insertAll (insert k v a) r

def floatOperation (op : Arithmetic) (x y : Binary64) : Binary64 :=
  match op with
  | .add => x.add y
  | .sub => x.sub y
  | .mul => x.mul y
  | .div => x.div y
  | .rem => x.rem y

/-- A number to divide the other one by. The least number has no quotient by minus one. -/
def intDivisor (m n : Int64) : Except Fault Int64 :=
  if n = 0 then .error .zeroDivisor
  else if m = Int64.minValue ∧ n = -1 then .error .overflow
  else .ok n

/-- Sums, differences and products wrap around. -/
def intOperation (op : Arithmetic) (m n : Int64) : Except Fault Int64 :=
  match op with
  | .add => .ok (m + n)
  | .sub => .ok (m - n)
  | .mul => .ok (m * n)
  | .div => (intDivisor m n).map (m / ·)
  | .rem => (intDivisor m n).map (m % ·)

def uintDivisor (n : UInt64) : Except Fault UInt64 := if n = 0 then .error .zeroDivisor else .ok n

def uintOperation (op : Arithmetic) (m n : UInt64) : Except Fault UInt64 :=
  match op with
  | .add => .ok (m + n)
  | .sub => .ok (m - n)
  | .mul => .ok (m * n)
  | .div => (uintDivisor n).map (m / ·)
  | .rem => (uintDivisor n).map (m % ·)

/-- Whole numbers of different types do not mix; a floating-point number mixes with both. -/
def numeric (op : Arithmetic) (a b : Value) : Except Fault Value :=
  match a, b with
  | int m, int n => (intOperation op m n).map int
  | uint m, uint n => (uintOperation op m n).map uint
  | int _, uint _ | uint _, int _ => .error .unsupportedBinary
  | a, b =>
    match a.toBinary64?, b.toBinary64? with
    | some x, some y => .ok (float (floatOperation op x y))
    | _, _ => .error .unsupportedBinary

def arithmetic (op : Arithmetic) (a b : Value) : Except Fault Value :=
  match op, a, b with
  | .add, list a, list b => .ok (list (a ++ b))
  | .add, string a, string b => .ok (string (a ++ b))
  | .add, map a, map b => .ok (map (insertAll a b))
  | .add, duration a, duration b => .ok (duration ⟨a.nanos + b.nanos⟩)
  | .add, timestamp t, duration d => .ok (timestamp (t.shift d))
  | .add, duration d, timestamp t => .ok (timestamp (t.shift d))
  | .sub, duration a, duration b => .ok (duration ⟨a.nanos - b.nanos⟩)
  | .sub, timestamp t, duration d => .ok (timestamp (t.shift ⟨-d.nanos⟩))
  | .sub, timestamp a, timestamp b => .ok (duration (a.since b))
  | op, a, b => numeric op a b

/-- A part of a list without gaps. -/
def occurs {α : Type} [BEq α] (part : List α) : List α → Bool
  | [] => part.isEmpty
  | a :: r => part.isPrefixOf (a :: r) || occurs part r

def textOccurs (part text : String) : Bool := occurs part.toList text.toList

def relation (op : Relation) (a b : Value) : Except Fault Bool :=
  let ordered (p : Ordering → Bool) : Except Fault Bool :=
    match a.compare b with
    | some o => .ok (p o)
    | none => .error .notComparable
  match op with
  | .lt => ordered Ordering.isLT
  | .le => ordered Ordering.isLE
  | .gt => ordered Ordering.isGT
  | .ge => ordered Ordering.isGE
  | .eq => .ok (b.equal a)
  | .ne => .ok !(b.equal a)
  | .member =>
    match a, b with
    | string s, string t => .ok (textOccurs s t)
    | v, list items => .ok (items.any fun w => w.equal v)
    | v, map entries => .ok ((Key.ofValue? v).any fun k => (lookup k entries).isSome)
    | _, _ => .error .notComparable

def unary (op : Unary) (v : Value) : Except Fault Value :=
  match op, v with
  | .not, v => .ok (bool !v.truth)
  | .notNot, v => .ok (bool v.truth)
  | .minus, int n => .ok (int (-n))
  | .minus, float x => .ok (float x.neg)
  | .minusMinus, int n => .ok (int n)
  | .minusMinus, uint n => .ok (uint n)
  | .minusMinus, float x => .ok (float x)
  | _, _ => .error .unsupportedUnary

/-- The character that takes up exactly the byte at a position. -/
def charAtByte (n : Nat) : List Char → Option Char
  | [] => none
  | c :: r =>
    if n = 0 then if c.utf8Size = 1 then some c else none
    else if n < c.utf8Size then none
    else charAtByte (n - c.utf8Size) r

/-- Integers with and without sign find the same entry. -/
def lookupEither (k : Key) (entries : List (Key × Value)) : Option Value :=
  (lookup k entries).or (match k with
    | .int n => if 0 ≤ n then lookup (.uint (.ofNat n.toInt.toNat)) entries else none
    | .uint n =>
      if n.toNat ≤ Int64.maxValue.toInt then lookup (.int (.ofInt n.toNat)) entries else none
    | _ => none)

/-- Where there is nothing at a position or key the result is null. -/
def index (v i : Value) : Except Fault Value :=
  match v, i with
  | list items, int n => .ok (if 0 ≤ n then items.getD n.toInt.toNat null else null)
  | list _, _ => .error .unsupportedListIndex
  | string s, int n =>
    .ok (if 0 ≤ n then
      match charAtByte n.toInt.toNat s.toList with
      | some c => string (.singleton c)
      | none => null
    else null)
  | map entries, k =>
    match Key.ofValue? k with
    | some k => .ok ((lookupEither k entries).getD null)
    | none => .error .unsupportedMapIndex
  | _, _ => .error .unsupportedIndex

/-- The member of a map. -/
def member? (v : Value) (name : String) : Option Value :=
  match v with
  | map entries => lookup (.string name) entries
  | _ => none

/-- The values that a comprehension runs over: the items of a list or the keys of a map. -/
def elements? : Value → Option (List Value)
  | list items => some items
  | map entries => some (entries.map fun e => e.1.toValue)
  | _ => none

/-- The greatest value, of equal ones the last; nothing has the greatest value null. -/
def greatest : List Value → Except Fault Value
  | [] => .ok null
  | v :: r => r.foldlM (fun best w =>
    match best.compare w with
    | some .gt => .ok best
    | some _ => .ok w
    | none => .error .notComparable) v

def asText : Value → Except Fault String
  | string s => .ok s
  | _ => .error .unexpectedType

def contains (v part : Value) : Except Fault Bool :=
  match v, part with
  | list items, part => .ok (items.any fun w => w.equal part)
  | map entries, part =>
    match Key.ofValue? part with
    | some k => .ok (lookup k entries).isSome
    | none => .error .unsupportedKey
  | string s, string t => .ok (textOccurs t s)
  | bytes b, bytes c => .ok (occurs c b)
  | _, _ => .ok false

/-- A text has the size of its encoding. -/
def size : Value → Except Fault Value
  | list items => .ok (int (.ofNat items.length))
  | map entries => .ok (int (.ofNat entries.length))
  | string s => .ok (int (.ofNat s.utf8ByteSize))
  | bytes b => .ok (int (.ofNat b.length))
  | _ => .error (.inapplicable "size")

def toText : Value → Except Fault Value
  | string s => .ok (string s)
  | int n => .ok (string (toString n.toInt))
  | uint n => .ok (string (toString n.toNat))
  | float x => .ok (string (x.render .plain))
  | bytes b => .ok (string (Text.Utf8.decode b))
  | duration d => .ok (string d.text)
  | timestamp t => .ok (string t.text)
  | _ => .error (.inapplicable "string")

def toDouble (v : Value) : Except Fault Value :=
  let result :=
    match v with
    | string s => Binary64.ofText? s
    | v => v.toBinary64?
  match result with
  | some x => .ok (float x)
  | none => .error (.inapplicable "double")

def floatWithin (x : Binary64) (low high : Int) : Bool :=
  !(x.lt (.ofInt low)) && !((Binary64.ofInt high).lt x)

def toInt (v : Value) : Except Fault Value :=
  let whole (n : Option Int) : Except Fault Value :=
    match n.filter fun n => Int64.minValue.toInt ≤ n && n ≤ Int64.maxValue.toInt with
    | some n => .ok (int (.ofInt n))
    | none => .error (.inapplicable "int")
  match v with
  | float x =>
    if floatWithin x Int64.minValue.toInt (Int64.maxValue.toInt + 1) then .ok (int x.toInt64)
    else .error (.inapplicable "int")
  | string s => whole (intOfText? s)
  | v => whole v.toInt?

def toUint (v : Value) : Except Fault Value :=
  let whole (n : Option Int) : Except Fault Value :=
    match n.filter fun n : Int => 0 ≤ n && n < UInt64.size with
    | some n => .ok (uint (.ofNat n.toNat))
    | none => .error (.inapplicable "uint")
  match v with
  | float x =>
    if floatWithin x 0 UInt64.size then .ok (uint x.toUInt64) else .error (.inapplicable "uint")
  | string s => whole (if s.startsWith "-" then none else intOfText? s)
  | v => whole v.toInt?

def matchesText (text expression : String) : Except Fault Bool :=
  match Regex.parse? expression with
  | some r => .ok (r.isMatch text)
  | none => .error (.inapplicable "matches")

def toDuration (s : String) : Except Fault Value :=
  match Span.ofText? s with
  | some d => .ok (duration d)
  | none => .error (.inapplicable "duration")

def toTimestamp (s : String) : Except Fault Value :=
  match Moment.ofText? s with
  | some t => .ok (timestamp t)
  | none => .error (.inapplicable "timestamp")

end Value
end Turnstile.Condition

import Turnstile.Condition.Moment
import Turnstile.Json.Basic
import Turnstile.Text.Base64
import Turnstile.Text.Quoted
import Turnstile.Text.Utf8

/-! Values that conditions compute with. -/
namespace Turnstile.Condition

inductive Key where
  | int (n : Int64)
  | uint (n : UInt64)
  | bool (b : Bool)
  | string (s : String)
deriving DecidableEq

inductive Value where
  | null
  | bool (b : Bool)
  | int (n : Int64)
  | uint (n : UInt64)
  | float (x : Binary64)
  | string (s : String)
  | bytes (b : List UInt8)
  | list (items : List Value)
  /-- The entries in increasing order of their keys. -/
  | map (entries : List (Key × Value))
  | duration (d : Span)
  | timestamp (t : Moment)
  /-- A function named as a member of a value. -/
  | function (name : String) (target : Value)
deriving Inhabited

namespace Key

def rank : Key → Nat
  | int _ => 0
  | uint _ => 1
  | bool _ => 2
  | string _ => 3

def lt (a b : Key) : Bool :=
  match a, b with
  | int a, int b => a < b
  | uint a, uint b => a < b
  | bool a, bool b => !a && b
  | string a, string b => a < b
  | a, b => a.rank < b.rank

def text : Key → String
  | int n => toString n.toInt
  | uint n => toString n.toNat
  | bool b => toString b
  | string s => s

def ofValue? : Value → Option Key
  | .int n => some (.int n)
  | .uint n => some (.uint n)
  | .bool b => some (.bool b)
  | .string s => some (.string s)
  | _ => none

def toValue : Key → Value
  | int n => .int n
  | uint n => .uint n
  | bool b => .bool b
  | string s => .string s

end Key

namespace Value

/-- The name of the type. -/
def kind : Value → String
  | null => "null"
  | bool _ => "bool"
  | int _ => "int"
  | uint _ => "uint"
  | float _ => "float"
  | string _ => "string"
  | bytes _ => "bytes"
  | list _ => "list"
  | map _ => "map"
  | duration _ => "duration"
  | timestamp _ => "timestamp"
  | function _ _ => "function"

def lookup (k : Key) : List (Key × Value) → Option Value
  | [] => none
  | (j, v) :: r => if k = j then some v else lookup k r

/-- The new value replaces the one at the same key, if any. -/
def insert (k : Key) (v : Value) : List (Key × Value) → List (Key × Value)
  | [] => [(k, v)]
  | (j, w) :: r =>
    if k = j then (k, v) :: r else if k.lt j then (k, v) :: (j, w) :: r else (j, w) :: insert k v r

/-- The number of a numeric value as a double. -/
def toBinary64? : Value → Option Binary64
  | int n => some (.ofInt n.toInt)
  | uint n => some (.ofNat n.toNat)
  | float x => some x
  | _ => none

/-- The number of a whole numeric value. -/
def toInt? : Value → Option Int
  | int n => some n.toInt
  | uint n => some n.toNat
  | _ => none

/-- Whole numbers compare exactly, a whole number and a floating-point one as doubles. -/
def sameNumber (a b : Value) : Bool :=
  match a.toInt?, b.toInt? with
  | some m, some n => m = n
  | _, _ =>
    match a.toBinary64?, b.toBinary64? with
    | some x, some y => x.same y
    | _, _ => false

mutual
def equal : Value → Value → Bool
  | null, null => true
  | bool a, bool b => a = b
  | string a, string b => a = b
  | bytes a, bytes b => a = b
  | list a, list b => equalItems a b
  | map a, map b => a.length = b.length && equalEntries a b
  | duration a, duration b => a = b
  | timestamp a, timestamp b => a.same b
  | function f a, function g b => f = g && equal a b
  | a, b => sameNumber a b

def equalItems : List Value → List Value → Bool
  | [], [] => true
  | a :: r, b :: s => equal a b && equalItems r s
  | _, _ => false

def equalEntries : List (Key × Value) → List (Key × Value) → Bool
  | [], _ => true
  | (k, v) :: r, b => ((lookup k b).any fun w => equal v w) && equalEntries r b
end

/-- `none` for values that have no order. -/
def compare (a b : Value) : Option Ordering :=
  match a, b with
  | null, null => some .eq
  | bool a, bool b => some (Ord.compare a b)
  | string a, string b => some (Ord.compare a b)
  | duration a, duration b => some (Ord.compare a.nanos b.nanos)
  | timestamp a, timestamp b => some (a.compare b)
  | a, b =>
    match a.toInt?, b.toInt? with
    | some m, some n => some (Ord.compare m n)
    | _, _ =>
      match a.toBinary64?, b.toBinary64? with
      | some x, some y => x.compare y
      | _, _ => none

/-- What counts as true where a truth value is wanted. -/
def truth : Value → Bool
  | null => false
  | bool b => b
  | int n => n ≠ 0
  | uint n => n ≠ 0
  | float x => !x.isZero
  | string s => !s.isEmpty
  | bytes b => !b.isEmpty
  | list items => !items.isEmpty
  | map entries => !entries.isEmpty
  | duration d => d.nanos ≠ 0 && -0x8000000000000000 ≤ d.nanos && d.nanos < 0x8000000000000000
  | timestamp t => 0 < t.sinceEpoch && t.sinceEpoch < 0x8000000000000000
  | function _ _ => false

def commaSeparated (parts : List String) : String := ", ".intercalate parts

def keyDescription : Key → String
  | .int n => s!"Int({n.toInt})"
  | .uint n => s!"Uint({n.toNat})"
  | .bool b => s!"Bool({b})"
  | .string s => s!"String({Text.quoted s})"

mutual
/-- A diagnostic text. -/
def describe : Value → String
  | null => "Null"
  | bool b => s!"Bool({b})"
  | int n => s!"Int({n.toInt})"
  | uint n => s!"UInt({n.toNat})"
  | float x => s!"Float({x.render .diagnostic})"
  | string s => s!"String({Text.quoted s})"
  | bytes b =>
    let numbers := b.map fun n => toString n.toNat
    s!"Bytes([{commaSeparated numbers}])"
  | list items => s!"List([{commaSeparated (describeItems items)}])"
  | map entries =>
    "Map(Map \x7b map: \x7b" ++ commaSeparated (describeEntries entries) ++ "\x7d \x7d)"
  | duration d =>
    s!"Duration(TimeDelta \x7b secs: {d.seconds}, nanos: {d.subsecond} \x7d)"
  | timestamp t => s!"Timestamp({t.text})"
  | function name target => s!"Function({Text.quoted name}, Some({describe target}))"

def describeItems : List Value → List String
  | [] => []
  | v :: r => describe v :: describeItems r

def describeEntries : List (Key × Value) → List String
  | [] => []
  | (k, v) :: r => s!"{keyDescription k}: {describe v}" :: describeEntries r
end

mutual
def ofJson : Json → Value
  | .null => null
  | .bool b => bool b
  | .number (.whole n) =>
    if n.val < 0x8000000000000000 then int (.ofInt n.val) else uint (.ofNat n.val.toNat)
  | .number (.float x) => float x.value
  | .string s => string s
  | .array items => list (ofItems items)
  | .object members => map (ofMembers members)

def ofItems : List Json → List Value
  | [] => []
  | v :: r => ofJson v :: ofItems r

def ofMembers : List (String × Json) → List (Key × Value)
  | [] => []
  | (n, v) :: r => (.string n, ofJson v) :: ofMembers r
end

mutual
/-- Bytes become text in base 64; keys and values without a counterpart become their texts. -/
def toJson : Value → Json
  | null => .null
  | bool b => .bool b
  | int n => .int n.toInt
  | uint n => .int n.toNat
  | float x => .float x
  | string s => .string s
  | bytes b => .string (.ofList (Text.Base64.encode b))
  | list items => .array (toItems items)
  | map entries => .obj (toMembers entries)
  | duration d => .string (describe (duration d))
  | timestamp t => .string (describe (timestamp t))
  | function name target => .string (describe (function name target))

def toItems : List Value → List Json
  | [] => []
  | v :: r => toJson v :: toItems r

def toMembers : List (Key × Value) → List (String × Json)
  | [] => []
  | (k, v) :: r => (k.text, toJson v) :: toMembers r
end

end Value
end Turnstile.Condition

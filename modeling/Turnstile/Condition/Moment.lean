import Turnstile.Calendar
import Turnstile.Number.Notation

/-! Spans of time and points in time, to the nanosecond. -/
namespace Turnstile

/-- A span of time in nanoseconds. -/
structure Span where
  nanos : Int
deriving DecidableEq, Inhabited

namespace Span

def perSecond : Nat := 1000000000

def seconds (d : Span) : Int := d.nanos / perSecond

/-- Nanoseconds after the full second below. -/
def subsecond (d : Span) : Nat := (d.nanos % perSecond).toNat

private def units : List (String × Nat) :=
  [("ms", 1000000), ("us", 1000), ("ns", 1), ("h", 3600000000000), ("m", 60000000000),
    ("s", 1000000000)]

private def dropWord? (word cs : List Char) : Option (List Char) :=
  match word, cs with
  | [], r => some r
  | _ :: _, [] => none
  | w :: ws, c :: r => if w = c.toLower then dropWord? ws r else none

inductive Scan (α : Type) where
  | found (a : α) (rest : List Char)
  | absent
  /-- What was begun cannot be something else. -/
  | broken

/-- A decimal with optional sign, fraction and exponent. -/
private def scanDecimal (cs : List Char) : Scan Binary64 :=
  let (negative, r) := match cs with
    | '-' :: r => (true, r)
    | '+' :: r => (false, r)
    | r => (false, r)
  let (whole, r) := takeDigits r
  let (places, r') := match r with
    | '.' :: r => takeDigits r
    | r => ([], r)
  if whole.isEmpty && places.isEmpty then
    match dropWord? "nan".toList cs, dropWord? "inf".toList cs with
    | some r, _ => .found (.ofFloat (0.0 / 0.0)) r
    | none, some r => .found .infinity r
    | none, none => .absent
  else
    let value (e : Int) : Binary64 :=
      let x := Binary64.ofDecimal (natOfDigits (whole ++ places)) (e - places.length)
      if negative then x.neg else x
    match r' with
    | c :: r =>
      if c = 'e' || c = 'E' then
        let (down, r) := match r with
          | '-' :: r => (true, r)
          | '+' :: r => (false, r)
          | r => (false, r)
        let (digits, rest) := takeDigits r
        if digits.isEmpty then .broken
        else
          let e : Int := natOfDigits digits
          .found (value (if down then -e else e)) rest
      else .found (value 0) r'
    | [] => .found (value 0) []

private def scanUnit? (cs : List Char) : Option (Nat × List Char) :=
  units.findSome? fun (name, nanos) =>
    if name.toList.isPrefixOf cs then some (nanos, cs.drop name.length) else none

private def scanParts : Nat → List Char → Scan (List Int)
  | 0, _ => .absent
  | fuel + 1, cs =>
    match scanDecimal cs with
    | .absent => .absent
    | .broken => .broken
    | .found x r =>
      match scanUnit? r with
      | none => .absent
      | some (unit, r) =>
        let part := (x.mul (.ofNat unit)).toInt64.toInt
        match scanParts fuel r with
        | .broken => .broken
        | .absent => .found [part] r
        | .found parts r => .found (part :: parts) r

/-- Decimals with units, such as `1h30m` or `-1.5s`; what follows them is not looked at. -/
def ofText? (s : String) : Option Span :=
  let (negative, r) := match s.toList with
    | '-' :: r => (true, r)
    | r => (false, r)
  if r = ['0'] then some ⟨0⟩
  else match scanParts (r.length + 1) r with
    | .found parts _ =>
      let total := parts.foldl (· + ·) 0
      some ⟨if negative then -total else total⟩
    | _ => none

private def dropZeros (cs : List Char) : List Char := (cs.reverse.dropWhile (· = '0')).reverse

private def padLeft (width n : Nat) : List Char :=
  let t := Nat.toDigits 10 n
  List.replicate (width - t.length) '0' ++ t

/-- `n / 10 ^ places` without trailing zeros. -/
private def decimal (n places : Nat) : List Char :=
  let fraction := dropZeros (padLeft places (n % Nat.pow 10 places))
  Nat.toDigits 10 (n / Nat.pow 10 places) ++
    if places = 0 || fraction.isEmpty then [] else '.' :: fraction

/-- Hours, minutes and seconds, or one smaller unit for spans below a second. -/
def text (d : Span) : String :=
  let n := d.nanos.natAbs
  let body : List Char :=
    if n = 0 then "0s".toList
    else if n < 1000 then decimal n 0 ++ "ns".toList
    else if n < 1000000 then decimal n 3 ++ "µs".toList
    else if n < perSecond then decimal n 6 ++ "ms".toList
    else
      let s := n / perSecond
      let seconds := decimal (n % (60 * perSecond)) 9 ++ ['s']
      let minutes := if s < 60 then [] else Nat.toDigits 10 (s / 60 % 60) ++ ['m']
      let hours := if s < 3600 then [] else Nat.toDigits 10 (s / 3600) ++ ['h']
      hours ++ minutes ++ seconds
  .ofList (if d.nanos < 0 then '-' :: body else body)

end Span

/-- A point in time, with the distance from Greenwich in which it was given. -/
structure Moment where
  clock : ClockTime
  /-- Nanoseconds after the second; a leap second has more than 10⁹. -/
  nanos : Nat := 0
deriving DecidableEq, Inhabited

namespace Moment

/-- The place does not matter. -/
def same (a b : Moment) : Bool := a.clock.seconds = b.clock.seconds && a.nanos = b.nanos

def compare (a b : Moment) : Ordering :=
  (Ord.compare a.clock.seconds b.clock.seconds).then (Ord.compare a.nanos b.nanos)

/-- Nanoseconds since the first moment of 1970. -/
def sinceEpoch (t : Moment) : Int := t.clock.seconds * Span.perSecond + t.nanos

def shift (t : Moment) (d : Span) : Moment :=
  let n := t.sinceEpoch + d.nanos
  ⟨{ t.clock with seconds := n / Span.perSecond }, (n % Span.perSecond).toNat⟩

def since (a b : Moment) : Span := ⟨a.sinceEpoch - b.sinceEpoch⟩

private def number? (width low high : Nat) (cs : List Char) : Option (Nat × List Char) :=
  let ds := cs.take width
  let n := natOfDigits ds
  if ds.length = width && ds.all Char.isDigit && low ≤ n && n ≤ high then some (n, cs.drop width)
  else none

private def mark? (allowed : List Char) : List Char → Option (List Char)
  | c :: r => if c ∈ allowed then some r else none
  | [] => none

private def fraction? : List Char → Option (Nat × List Char)
  | '.' :: r =>
    let (ds, r) := takeDigits r
    if ds.isEmpty then none
    else
      let kept := ds.take 9
      some (natOfDigits kept * Nat.pow 10 (9 - kept.length), r)
  | r => some (0, r)

private def offset? : List Char → Option Int
  | ['Z'] | ['z'] => some 0
  | sign :: r => do
    let positive ←
      if sign = '+' then some true else if sign = '-' || sign = '−' then some false else none
    let (h, r) ← number? 2 0 23 r
    let r ← mark? [':'] r
    let (m, r) ← number? 2 0 59 r
    let n : Int := h * 3600 + m * 60
    if r.isEmpty then some (if positive then n else -n) else none
  | [] => none

/-- A date, a time of day and an offset, such as `2024-01-01T00:00:00Z`. -/
def ofText? (s : String) : Option Moment := do
  let (year, r) ← number? 4 0 9999 s.toList
  let r ← mark? ['-'] r
  let (month, r) ← number? 2 1 12 r
  let r ← mark? ['-'] r
  let (day, r) ← number? 2 1 (Date.daysInMonth year month) r
  let r ← mark? ['T', 't', ' '] r
  let (hour, r) ← number? 2 0 23 r
  let r ← mark? [':'] r
  let (minute, r) ← number? 2 0 59 r
  let r ← mark? [':'] r
  let (second, r) ← number? 2 0 60 r
  let (nanos, r) ← fraction? r
  let offset ← offset? r
  let leap := second = 60
  let days := Date.toDays ⟨year, month, day⟩
  let seconds := days * 86400 + hour * 3600 + minute * 60 + (if leap then 59 else second) - offset
  some ⟨⟨seconds, offset⟩, if leap then Span.perSecond + nanos else nanos⟩

private def digits (width n : Nat) : List Char :=
  let t := Nat.toDigits 10 n
  List.replicate (width - t.length) '0' ++ t

private def yearText (year : Int) : List Char :=
  if 0 ≤ year && year ≤ 9999 then digits 4 year.toNat
  else (if year < 0 then '-' else '+') :: digits 4 year.natAbs

private def fractionText (n : Nat) : List Char :=
  if n = 0 then []
  else if n % 1000000 = 0 then '.' :: digits 3 (n / 1000000)
  else if n % 1000 = 0 then '.' :: digits 6 (n / 1000)
  else '.' :: digits 9 n

private def offsetText (offset : Int) : List Char :=
  let n := offset.natAbs
  (if offset < 0 then '-' else '+') :: digits 2 (n / 3600) ++ ':' :: digits 2 (n / 60 % 60)

/-- The form that `ofText?` reads, with as few decimal places as needed of 0, 3, 6 and 9. -/
def text (t : Moment) : String :=
  let d := t.clock.date
  let leap := if t.nanos < Span.perSecond then 0 else 1
  .ofList (yearText d.year ++ '-' :: digits 2 d.month ++ '-' :: digits 2 d.day ++
    'T' :: digits 2 t.clock.hour ++ ':' :: digits 2 t.clock.minute ++
    ':' :: digits 2 (t.clock.second + leap) ++ fractionText (t.nanos % Span.perSecond) ++
    offsetText t.clock.offset)

end Moment
end Turnstile

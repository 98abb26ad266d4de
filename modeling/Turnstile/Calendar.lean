/-! The Gregorian calendar, extended to all years, and times of day. -/
namespace Turnstile

structure Date where
  year : Int
  month : Nat
  day : Nat
deriving DecidableEq, Inhabited

namespace Date

def isLeap (year : Int) : Bool := year % 4 = 0 && (year % 100 ≠ 0 || year % 400 = 0)

def daysInMonth (year : Int) (month : Nat) : Nat :=
  match month with
  | 2 => if isLeap year then 29 else 28
  | 4 | 6 | 9 | 11 => 30
  | _ => 31

/-- The days before the first of January of a year, counted from 1 January of year 0. -/
def daysBeforeYear (year : Int) : Int :=
  let y := year - 1
  365 * year + y / 4 - y / 100 + y / 400 + 1

def daysBeforeMonth (year : Int) (month : Nat) : Nat :=
  (List.range (month - 1)).foldl (fun n m => n + daysInMonth year (m + 1)) 0

/-- Days since 1 January 1970. -/
def toDays (d : Date) : Int :=
  daysBeforeYear d.year - daysBeforeYear 1970 + daysBeforeMonth d.year d.month + d.day - 1

def monthOf (year : Int) : Nat → Nat → Nat → Nat × Nat
  | 0, month, day => (month, day)
  | fuel + 1, month, day =>
    let n := daysInMonth year month
    if day < n then (month, day) else monthOf year fuel (month + 1) (day - n)

/-- A year has between 365 and 366 days, so the first guess is at most one year early or late. -/
def ofDays (days : Int) : Date :=
  let n := days + daysBeforeYear 1970
  let guess := n * 400 / 146097
  let year :=
    if n < daysBeforeYear guess then guess - 1
    else if daysBeforeYear (guess + 1) ≤ n then guess + 1
    else guess
  let (month, day) := monthOf year 12 1 (n - daysBeforeYear year).toNat
  ⟨year, month, day + 1⟩

def weekdayNames : List String :=
  ["Sunday", "Monday", "Tuesday", "Wednesday", "Thursday", "Friday", "Saturday"]

/-- Day 0 was a Thursday. -/
def weekday (days : Int) : String := weekdayNames.getD ((days + 4) % 7).toNat ""

end Date

/-- Seconds since the first moment of 1970, and the distance from Greenwich of the place where the
clock is read. -/
structure ClockTime where
  seconds : Int
  /-- Seconds east. -/
  offset : Int := 0
deriving DecidableEq, Inhabited

namespace ClockTime

def localSeconds (t : ClockTime) : Int := t.seconds + t.offset

def localDays (t : ClockTime) : Int := t.localSeconds / 86400

def date (t : ClockTime) : Date := .ofDays t.localDays

def secondOfDay (t : ClockTime) : Nat := (t.localSeconds % 86400).toNat

def hour (t : ClockTime) : Nat := t.secondOfDay / 3600

def minute (t : ClockTime) : Nat := t.secondOfDay / 60 % 60

def second (t : ClockTime) : Nat := t.secondOfDay % 60

end ClockTime
end Turnstile

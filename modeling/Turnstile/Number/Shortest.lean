import Turnstile.Number.Binary64

/-! The decimal with the fewest digits that still reads back as a given double. -/
namespace Turnstile

/-- `digits * 10 ^ exponent`. -/
structure Decimal where
  digits : Nat
  exponent : Int
deriving DecidableEq, Inhabited

namespace Decimal

/-- The digits, most significant first. -/
def text (d : Decimal) : List Char := Nat.toDigits 10 d.digits

/-- The power of ten of the leading digit. -/
def leadingExponent (d : Decimal) : Int := d.exponent + d.text.length - 1

/-- Moves trailing zeros of the digits into the exponent. -/
def trim (d : Decimal) : Decimal := go 20 d
where
  go : Nat → Decimal → Decimal
    | 0, d => d
    | n + 1, d =>
      if d.digits ≠ 0 && d.digits % 10 = 0 then go n ⟨d.digits / 10, d.exponent + 1⟩ else d

end Decimal

namespace Binary64

/-- The reals that round to a positive double, times `4 / 2 ^ scale`. -/
structure RoundingInterval where
  low : Nat
  value : Nat
  high : Nat
  /-- The ends belong to the interval. -/
  closed : Bool

/-- The gap below a power of two is half the gap above it. -/
def roundingInterval (x : Binary64) : RoundingInterval :=
  let m := x.significand
  { low := if x.fraction = 0 && 1 < x.exponentBits then 4 * m - 1 else 4 * m - 2
    value := 4 * m
    high := 4 * m + 2
    closed := m % 2 = 0 }

/-- A quotient `num / den` for `(k / 4) * 2 ^ scale / 10 ^ grid`. -/
def onGrid (scale grid : Int) (k : Nat) : Nat × Nat :=
  (k * Nat.pow 2 (scale - 2).toNat * Nat.pow 10 (-grid).toNat,
    Nat.pow 2 (2 - scale).toNat * Nat.pow 10 grid.toNat)

def digitCount (n : Nat) : Nat := (Nat.toDigits 10 n).length

/-- The power of ten of the leading digit of a positive double. -/
def magnitude (x : Binary64) : Int :=
  let (n, d) := onGrid x.scale (-400) (4 * x.significand)
  (digitCount (n / d) : Int) - 401

/-- Of the two neighbours on the grid the nearest one inside the interval; a tie goes to the even
one. -/
def candidate? (x : Binary64) (grid : Int) : Option Nat :=
  let i := x.roundingInterval
  let (vn, vd) := onGrid x.scale grid i.value
  let inside (c : Nat) : Bool :=
    let (ln, ld) := onGrid x.scale grid i.low
    let (hn, hd) := onGrid x.scale grid i.high
    if i.closed then ln ≤ c * ld && c * hd ≤ hn else ln < c * ld && c * hd < hn
  let below := vn / vd
  let above := below + 1
  match inside below && below ≠ 0, inside above with
  | false, false => none
  | true, false => some below
  | false, true => some above
  | true, true =>
    let twice := 2 * (vn % vd)
    if twice < vd || (twice = vd && below % 2 = 0) then some below else some above

/-- Tries one digit, then two, and so on; seventeen always suffice. -/
def shortest (x : Binary64) : Decimal :=
  if x.isZero then ⟨0, 0⟩
  else
    let top := x.magnitude
    let hit := (List.range 17).findSome? fun (n : Nat) =>
      (x.candidate? (top - n)).map fun c => Decimal.mk c (top - n)
    (hit.getD ⟨0, 0⟩).trim

end Binary64
end Turnstile

/-! Double-precision numbers as bit patterns. Equality is equality of bits; arithmetic and
comparison are those of the hardware. -/
namespace Turnstile

structure Binary64 where
  bits : UInt64
deriving DecidableEq, Inhabited

namespace Binary64

def ofFloat (x : Float) : Binary64 := ⟨x.toBits⟩

def toFloat (x : Binary64) : Float := Float.ofBits x.bits

def isNegative (x : Binary64) : Bool := 0x8000000000000000 ≤ x.bits.toNat

/-- The eleven exponent bits. -/
def exponentBits (x : Binary64) : Nat := x.bits.toNat / 0x10000000000000 % 2048

/-- The fifty-two fraction bits. -/
def fraction (x : Binary64) : Nat := x.bits.toNat % 0x10000000000000

def isFinite (x : Binary64) : Bool := x.exponentBits ≠ 2047

def isNaN (x : Binary64) : Bool := x.exponentBits = 2047 && x.fraction ≠ 0

def isZero (x : Binary64) : Bool := x.exponentBits = 0 && x.fraction = 0

/-- A finite number is `±significand * 2 ^ scale`. -/
def significand (x : Binary64) : Nat :=
  if x.exponentBits = 0 then x.fraction else x.fraction + 0x10000000000000

def scale (x : Binary64) : Int := (max x.exponentBits 1 : Nat) - 1075

def zero : Binary64 := ⟨0⟩
def negZero : Binary64 := ⟨0x8000000000000000⟩
def infinity : Binary64 := ⟨0x7ff0000000000000⟩

def ofNat (n : Nat) : Binary64 := ofFloat (Float.ofNat n)
def ofInt (i : Int) : Binary64 := ofFloat (Float.ofInt i)

/-- The number nearest to `mantissa * 10 ^ exponent`. -/
def ofDecimal (mantissa : Nat) (exponent : Int) : Binary64 :=
  ofFloat (Float.ofScientific mantissa (exponent < 0) exponent.natAbs)

def neg (x : Binary64) : Binary64 := ⟨x.bits ^^^ 0x8000000000000000⟩
def add (x y : Binary64) : Binary64 := ofFloat (x.toFloat + y.toFloat)
def sub (x y : Binary64) : Binary64 := ofFloat (x.toFloat - y.toFloat)
def mul (x y : Binary64) : Binary64 := ofFloat (x.toFloat * y.toFloat)
def div (x y : Binary64) : Binary64 := ofFloat (x.toFloat / y.toFloat)
def sqrt (x : Binary64) : Binary64 := ofFloat x.toFloat.sqrt

/-- The remainder of truncating division, with the sign of the dividend. The remainder of the
scaled significands is below both, so it is exact. -/
def rem (x y : Binary64) : Binary64 :=
  if x.isNaN || y.isNaN || !x.isFinite || y.isZero then ofFloat (0.0 / 0.0)
  else if !y.isFinite then x
  else
    let e := min x.scale y.scale
    let a := x.significand * Nat.pow 2 (x.scale - e).toNat
    let b := y.significand * Nat.pow 2 (y.scale - e).toNat
    let r := ofFloat ((Float.ofNat (a % b)).scaleB e)
    if x.isNegative then r.neg else r

/-- Numeric equality: the two zeros are equal and no NaN equals anything. -/
def same (x y : Binary64) : Bool := x.toFloat == y.toFloat

def lt (x y : Binary64) : Bool := x.toFloat < y.toFloat
def le (x y : Binary64) : Bool := x.toFloat ≤ y.toFloat

def compare (x y : Binary64) : Option Ordering :=
  if x.lt y then some .lt else if y.lt x then some .gt else if x.same y then some .eq else none

/-- Rounds towards zero and stops at the ends of the range. -/
def toInt64 (x : Binary64) : Int64 := x.toFloat.toInt64

def toUInt64 (x : Binary64) : UInt64 := x.toFloat.toUInt64

end Binary64

/-- A double that is neither infinite nor NaN. -/
structure FiniteFloat where
  value : Binary64
  finite : value.isFinite = true := by decide
deriving DecidableEq

namespace FiniteFloat

instance : Inhabited FiniteFloat := ⟨⟨.zero, by decide⟩⟩

def of? (x : Binary64) : Option FiniteFloat := if h : x.isFinite = true then some ⟨x, h⟩ else none

theorem of?_value (x : FiniteFloat) : of? x.value = some x := by simp [of?, x.finite]

end FiniteFloat
end Turnstile

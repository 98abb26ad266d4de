import Mathlib.Algebra.Order.Field.Rat
import Mathlib.Algebra.Order.Field.Power
import Mathlib.Order.Monotone.Basic
import Mathlib.Tactic.FieldSimp
import Mathlib.Tactic.Linarith
import Mathlib.Tactic.NormNum
import Mathlib.Tactic.Positivity
import Mathlib.Tactic.Ring
import Turnstile.Number.Shortest

/-! The reals that round to a double. Between doubles that follow each other there is one end, which belongs
to the one with the even significand, so no real rounds to two doubles. -/
namespace Turnstile.Binary64
variable {x y : Binary64} {v : ℚ}

/-- The bits without the sign, which order the doubles by their absolute values. -/
def order (x : Binary64) : Nat := x.exponentBits * 0x10000000000000 + x.fraction

theorem ext_order (hsign : x.isNegative = y.isNegative) (horder : x.order = y.order) : x = y := by
  have hx := x.bits.toNat_lt
  have hy := y.bits.toNat_lt
  have hbits : x.bits.toNat = y.bits.toNat := by
    simp only [isNegative, decide_eq_decide] at hsign
    simp only [order, exponentBits, fraction] at horder
    omega
  obtain ⟨b⟩ := x
  obtain ⟨c⟩ := y
  exact congrArg mk (UInt64.toNat_inj.mp hbits)

theorem order_eq_zero_iff : x.order = 0 ↔ x.isZero = true := by
  simp only [order, isZero, Bool.and_eq_true, decide_eq_true_eq]
  omega

/-- A quarter of the unit in the last place. -/
def quarter (x : Binary64) : ℚ := 2 ^ (x.scale - 2)

theorem quarter_pos (x : Binary64) : 0 < x.quarter := zpow_pos (by norm_num) _

/-- The end between the doubles of an order and of the one before. -/
def boundary (n : Nat) : ℚ :=
  let exponent := n / 0x10000000000000
  let fraction := n % 0x10000000000000
  let significand : ℚ := fraction + if exponent = 0 then 0 else 0x10000000000000
  (4 * significand - if fraction = 0 ∧ 1 < exponent then 1 else 2) *
    2 ^ ((max exponent 1 : Nat) - 1077 : Int)

private theorem order_div (x : Binary64) : x.order / 0x10000000000000 = x.exponentBits := by
  simp only [order, exponentBits, fraction]
  omega

private theorem order_mod (x : Binary64) : x.order % 0x10000000000000 = x.fraction := by
  simp only [order, exponentBits, fraction]
  omega

theorem significand_pos (h : x.isZero = false) : 0 < x.significand := by
  have horder : x.order ≠ 0 := by
    intro horder
    rw [order_eq_zero_iff.mp horder] at h
    cases h
  simp only [order] at horder
  rw [significand]
  split <;> omega

private theorem cast_significand (x : Binary64) :
    (x.significand : ℚ) = x.fraction + if x.exponentBits = 0 then 0 else 0x10000000000000 := by
  rw [significand]
  split
  · rw [add_zero]
  · push_cast
    rfl

theorem boundary_order (h : x.isZero = false) :
    boundary x.order = x.roundingInterval.low * x.quarter := by
  have hpos := significand_pos h
  rw [boundary, order_div, order_mod, ← cast_significand, roundingInterval, quarter, scale]
  dsimp only
  congr 1
  · split
    · next hedge =>
      rw [if_pos (by simpa using hedge), Nat.cast_sub (by omega)]
      push_cast
      rfl
    · next hedge =>
      rw [if_neg (by simpa using hedge), Nat.cast_sub (by omega)]
      push_cast
      rfl
  · congr 1
    omega

/-- The upper end of a double is the lower one of the next, also where the unit in the last place
doubles. -/
private theorem boundary_succ (n : Nat) : boundary (n + 1) =
    (4 * ((n % 0x10000000000000 : Nat) + if n / 0x10000000000000 = 0 then 0 else 0x10000000000000) + 2) *
      2 ^ ((max (n / 0x10000000000000) 1 : Nat) - 1077 : Int) := by
  by_cases hlast : n % 0x10000000000000 + 1 < 0x10000000000000
  · have hdiv : (n + 1) / 0x10000000000000 = n / 0x10000000000000 := by omega
    have hmod : (n + 1) % 0x10000000000000 = n % 0x10000000000000 + 1 := by omega
    simp only [boundary, hdiv, hmod, Nat.add_eq_zero_iff, one_ne_zero, and_false, false_and, if_false]
    push_cast
    ring
  · have hdiv : (n + 1) / 0x10000000000000 = n / 0x10000000000000 + 1 := by omega
    have hmod : (n + 1) % 0x10000000000000 = 0 := by omega
    have hfull : n % 0x10000000000000 = 0xfffffffffffff := by omega
    simp only [boundary, hdiv, hmod, hfull]
    generalize n / 0x10000000000000 = e
    cases e with
    | zero => norm_num
    | succ e =>
      have hunit : (2 : ℚ) ^ ((max (e + 1 + 1) 1 : Nat) - 1077 : Int) =
          2 * 2 ^ ((max (e + 1) 1 : Nat) - 1077 : Int) := by
        rw [← zpow_one_add₀ two_ne_zero]
        congr 1
        omega
      have hlater : 1 < e + 1 + 1 := by omega
      rw [hunit, if_neg (Nat.succ_ne_zero _), if_pos ⟨trivial, hlater⟩, if_neg (Nat.succ_ne_zero _)]
      norm_num
      ring

theorem boundary_succ_order (x : Binary64) :
    boundary (x.order + 1) = x.roundingInterval.high * x.quarter := by
  rw [boundary_succ, order_div, order_mod, ← cast_significand, roundingInterval, quarter, scale]
  push_cast
  congr 2
  omega

/-- A double that is not zero is between its ends. -/
theorem boundary_lt_value (h : x.isZero = false) :
    boundary x.order < 4 * x.significand * x.quarter := by
  have hpos := significand_pos h
  rw [boundary_order h]
  apply mul_lt_mul_of_pos_right ?_ x.quarter_pos
  rw [roundingInterval]
  dsimp only
  split
  · exact_mod_cast (by omega : 4 * x.significand - 1 < 4 * x.significand)
  · exact_mod_cast (by omega : 4 * x.significand - 2 < 4 * x.significand)

theorem value_lt_boundary (x : Binary64) :
    4 * x.significand * x.quarter < boundary (x.order + 1) := by
  rw [boundary_succ_order]
  apply mul_lt_mul_of_pos_right ?_ x.quarter_pos
  exact_mod_cast (by omega : 4 * x.significand < 4 * x.significand + 2)

theorem strictMono_boundary : StrictMono boundary := by
  apply strictMono_nat_of_lt_succ
  intro n
  rw [boundary_succ]
  apply mul_lt_mul_of_pos_right ?_ (zpow_pos (by norm_num) _)
  have hstep : (if n % 0x10000000000000 = 0 ∧ 1 < n / 0x10000000000000 then 1 else 2 : ℚ) > 0 := by
    split <;> norm_num
  linarith

/-- The real rounds to the double. -/
def Rounds (x : Binary64) (v : ℚ) : Prop :=
  if x.significand % 2 = 0 then boundary x.order ≤ v ∧ v ≤ boundary (x.order + 1)
  else boundary x.order < v ∧ v < boundary (x.order + 1)

theorem Rounds.le (h : x.Rounds v) : boundary x.order ≤ v ∧ v ≤ boundary (x.order + 1) := by
  rw [Rounds] at h
  split at h
  · exact h
  · exact ⟨h.1.le, h.2.le⟩

theorem rounds_of_lt (hlow : boundary x.order < v) (hhigh : v < boundary (x.order + 1)) : x.Rounds v := by
  rw [Rounds]
  split
  · exact ⟨hlow.le, hhigh.le⟩
  · exact ⟨hlow, hhigh⟩

private theorem significand_mod_two (x : Binary64) : x.significand % 2 = x.order % 2 := by
  rw [significand, order]
  split <;> omega

private theorem Rounds.order_le (hx : x.Rounds v) (hy : y.Rounds v) : y.order ≤ x.order := by
  by_contra hlt
  have hends : boundary (x.order + 1) ≤ boundary y.order :=
    strictMono_boundary.monotone (by omega)
  have hsame : boundary (x.order + 1) = boundary y.order :=
    le_antisymm hends (hy.le.1.trans hx.le.2)
  have hnext : x.order + 1 = y.order := strictMono_boundary.injective hsame
  rw [Rounds, significand_mod_two] at hx hy
  -- Of two orders that follow each other one is odd, and its interval is open.
  by_cases heven : x.order % 2 = 0
  · have hv := hx
    rw [if_pos heven] at hv
    rw [if_neg (by omega), ← hnext] at hy
    exact absurd hy.1 (not_lt.mpr hv.2)
  · rw [if_neg heven] at hx
    have hv : boundary y.order ≤ v := by
      split at hy
      · exact hy.1
      · exact hy.1.le
    rw [← hnext] at hv
    exact absurd hx.2 (not_lt.mpr hv)

/-- No real rounds to two doubles of one sign. -/
theorem Rounds.order_eq (hx : x.Rounds v) (hy : y.Rounds v) : x.order = y.order :=
  Nat.le_antisymm (hy.order_le hx) (hx.order_le hy)

end Turnstile.Binary64

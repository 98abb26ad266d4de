import Mathlib.Data.Nat.Log
import Turnstile.Proofs.Number.Notation
import Turnstile.Proofs.Number.Rounding

/-! The shortest decimal of a double rounds to the double, so its text tells which double it is. -/
namespace Turnstile

namespace Binary64
variable {x y : Binary64} {grid : Int}

private theorem two_zpow (s : Int) :
    (2 : ℚ) ^ s * 2 ^ (-s).toNat = 2 ^ s.toNat := by
  rw [← zpow_natCast, ← zpow_natCast, ← zpow_add₀ two_ne_zero]
  congr 1
  omega

private theorem ten_zpow (s : Int) : (10 : ℚ) ^ s * 10 ^ (-s).toNat = 10 ^ s.toNat := by
  rw [← zpow_natCast, ← zpow_natCast, ← zpow_add₀ (by norm_num)]
  congr 1
  omega

/-- The quotient on the grid, without a remainder. -/
private theorem onGrid_spec (x : Binary64) (grid : Int) (k : Nat) :
    (0 : ℚ) < (onGrid x.scale grid k).2 ∧
      ((onGrid x.scale grid k).1 : ℚ) = k * x.quarter / 10 ^ grid * (onGrid x.scale grid k).2 := by
  have htwo := two_zpow (x.scale - 2)
  have hten := ten_zpow grid
  have hgrid : (0 : ℚ) < 10 ^ grid := zpow_pos (by norm_num) _
  have hneg : -(x.scale - 2) = 2 - x.scale := by ring
  rw [hneg] at htwo
  simp only [onGrid, quarter, Nat.pow_eq]
  push_cast
  refine ⟨by positivity, ?_⟩
  rw [← htwo, ← hten]
  field_simp

private theorem onGrid_le_iff (x : Binary64) (grid : Int) (k c : Nat) :
    (onGrid x.scale grid k).1 ≤ c * (onGrid x.scale grid k).2 ↔ k * x.quarter ≤ c * 10 ^ grid := by
  obtain ⟨hpos, hvalue⟩ := onGrid_spec x grid k
  rw [← Nat.cast_le (α := ℚ), Nat.cast_mul, hvalue, mul_le_mul_iff_left₀ hpos,
    div_le_iff₀ (zpow_pos (by norm_num) _)]

private theorem le_onGrid_iff (x : Binary64) (grid : Int) (k c : Nat) :
    c * (onGrid x.scale grid k).2 ≤ (onGrid x.scale grid k).1 ↔ c * 10 ^ grid ≤ k * x.quarter := by
  obtain ⟨hpos, hvalue⟩ := onGrid_spec x grid k
  rw [← Nat.cast_le (α := ℚ), Nat.cast_mul, hvalue, mul_le_mul_iff_left₀ hpos,
    le_div_iff₀ (zpow_pos (by norm_num) _)]

/-- The decimal on the grid is inside the interval. -/
def inside (x : Binary64) (grid : Int) (c : Nat) : Bool :=
  let i := x.roundingInterval
  let (ln, ld) := onGrid x.scale grid i.low
  let (hn, hd) := onGrid x.scale grid i.high
  if i.closed then ln ≤ c * ld && c * hd ≤ hn else ln < c * ld && c * hd < hn

theorem inside_iff (h : x.isZero = false) (grid : Int) (c : Nat) :
    x.inside grid c = true ↔ x.Rounds (c * 10 ^ grid) := by
  have hlow := onGrid_le_iff x grid x.roundingInterval.low c
  have hlow' := le_onGrid_iff x grid x.roundingInterval.low c
  have hhigh := le_onGrid_iff x grid x.roundingInterval.high c
  have hhigh' := onGrid_le_iff x grid x.roundingInterval.high c
  rw [Rounds, boundary_order h, boundary_succ_order]
  have hclosed : x.roundingInterval.closed = decide (x.significand % 2 = 0) := rfl
  by_cases heven : x.significand % 2 = 0
  · rw [if_pos heven, ← hlow, ← hhigh]
    simp [inside, hclosed, heven]
  · rw [if_neg heven, ← not_le, ← not_le, ← hlow', ← hhigh']
    simp [inside, hclosed, heven]

/-- The neighbour below on the grid. -/
def below (x : Binary64) (grid : Int) : Nat :=
  (onGrid x.scale grid (4 * x.significand)).1 / (onGrid x.scale grid (4 * x.significand)).2

/-- One of two neighbours, by whether each of them is inside, and whether the one below is nearer. -/
def pick (below : Nat) (first second nearer : Bool) : Option Nat :=
  match first, second with
  | false, false => none
  | true, false => some below
  | false, true => some (below + 1)
  | true, true => if nearer then some below else some (below + 1)

theorem below_le (x : Binary64) (grid : Int) :
    (x.below grid : ℚ) * 10 ^ grid ≤ 4 * x.significand * x.quarter := by
  have hle := (le_onGrid_iff x grid (4 * x.significand) _).mp (Nat.div_mul_le_self _ _)
  push_cast at hle
  exact hle

theorem lt_above (x : Binary64) (grid : Int) :
    4 * x.significand * x.quarter < (x.below grid + 1 : Nat) * 10 ^ grid := by
  have hpos : 0 < (onGrid x.scale grid (4 * x.significand)).2 := by
    exact_mod_cast (onGrid_spec x grid (4 * x.significand)).1
  have hlt : ¬ (x.below grid + 1) * (onGrid x.scale grid (4 * x.significand)).2 ≤
      (onGrid x.scale grid (4 * x.significand)).1 :=
    not_le.mpr ((Nat.lt_div_mul_add hpos).trans_eq (Nat.succ_mul _ _).symm)
  rw [le_onGrid_iff, not_le] at hlt
  push_cast at hlt ⊢
  exact hlt

/-- A candidate is one of the neighbours that are inside, if there are any. -/
theorem candidate?_cases (x : Binary64) (grid : Int) :
    (x.candidate? grid = none ∧ (x.inside grid (x.below grid) = true → x.below grid = 0) ∧
        x.inside grid (x.below grid + 1) = false) ∨
      ∃ c, x.candidate? grid = some c ∧ c ≠ 0 ∧ x.inside grid c = true := by
  let value := onGrid x.scale grid (4 * x.significand)
  let nearer : Bool := 2 * (value.1 % value.2) < value.2 ||
    (2 * (value.1 % value.2) = value.2 && x.below grid % 2 = 0)
  have hpick : x.candidate? grid = pick (x.below grid) (x.inside grid (x.below grid) && x.below grid ≠ 0)
    (x.inside grid (x.below grid + 1)) nearer := rfl
  rw [hpick]
  cases hfirst : x.inside grid (x.below grid) && x.below grid ≠ 0 with
  | false =>
    cases hsecond : x.inside grid (x.below grid + 1) with
    | false =>
      refine .inl ⟨rfl, fun hin => ?_, rfl⟩
      rw [hin, Bool.true_and, decide_eq_false_iff_not, not_not] at hfirst
      exact hfirst
    | true => exact .inr ⟨_, rfl, Nat.succ_ne_zero _, hsecond⟩
  | true =>
    rw [Bool.and_eq_true, decide_eq_true_eq] at hfirst
    cases hsecond : x.inside grid (x.below grid + 1) with
    | false => exact .inr ⟨_, rfl, hfirst.2, hfirst.1⟩
    | true =>
      cases nearer with
      | true => exact .inr ⟨_, rfl, hfirst.2, hfirst.1⟩
      | false => exact .inr ⟨_, rfl, Nat.succ_ne_zero _, hsecond⟩

/-- Of two neighbours of the value that are closer to each other than the ends are one is inside. -/
theorem exists_candidate? (h : x.isZero = false)
    (hwidth : (10 : ℚ) ^ grid < boundary (x.order + 1) - boundary x.order)
    (hfine : (10 : ℚ) ^ grid ≤ 4 * x.significand * x.quarter) : ∃ c, x.candidate? grid = some c := by
  have hbelow := x.below_le grid
  have habove := x.lt_above grid
  rcases x.candidate?_cases grid with ⟨-, hfirst, hsecond⟩ | ⟨c, hc, -, -⟩
  · have hpos : x.below grid ≠ 0 := by
      intro hzero
      rw [hzero, Nat.zero_add, Nat.cast_one, one_mul] at habove
      exact absurd hfine (not_le.mpr habove)
    have hlow : (x.below grid : ℚ) * 10 ^ grid ≤ boundary x.order := by
      by_contra hlt
      have hin := rounds_of_lt (not_le.mp hlt) (hbelow.trans_lt x.value_lt_boundary)
      exact hpos (hfirst ((inside_iff h grid _).mpr hin))
    have hhigh : boundary (x.order + 1) ≤ (x.below grid + 1 : Nat) * 10 ^ grid := by
      by_contra hlt
      have hin := rounds_of_lt ((boundary_lt_value h).trans habove) (not_le.mp hlt)
      rw [(inside_iff h grid _).mpr hin] at hsecond
      cases hsecond
    push_cast at hhigh
    linarith
  · exact ⟨c, hc⟩

theorem candidate?_rounds (h : x.isZero = false) {c : Nat} (hc : x.candidate? grid = some c) :
    c ≠ 0 ∧ x.Rounds (c * 10 ^ grid) := by
  rcases x.candidate?_cases grid with ⟨hnone, -, -⟩ | ⟨c', hc', hpos, hin⟩
  · rw [hnone] at hc
    cases hc
  · obtain rfl := Option.some.inj (hc'.symm.trans hc)
    exact ⟨hpos, (inside_iff h grid _).mp hin⟩

private theorem ten_zpow_neg_le (n : Nat) : (10 : ℚ) ^ (-(n : Int)) ≤ 2 ^ (-(3 * n : Nat) : Int) := by
  have hpower : (2 : ℚ) ^ (3 * n) ≤ 10 ^ n := by
    rw [pow_mul]
    exact pow_le_pow_left₀ (by norm_num) (by norm_num) n
  rw [zpow_neg, zpow_neg, zpow_natCast, zpow_natCast]
  exact inv_anti₀ (by positivity) hpower

/-- The smallest positive double is far above the start of the grid. -/
private theorem ten_zpow_le_value (h : x.isZero = false) :
    (10 : ℚ) ^ (-400 : Int) ≤ 4 * x.significand * x.quarter := by
  have hsignificand : (1 : ℚ) ≤ x.significand := by exact_mod_cast significand_pos h
  have hscale : (-(3 * 400 : Nat) : Int) ≤ x.scale := by
    rw [scale]
    omega
  have hquarter : 4 * x.quarter = 2 ^ x.scale := by
    rw [quarter, zpow_sub₀ two_ne_zero]
    norm_num
    ring
  calc (10 : ℚ) ^ (-400 : Int) ≤ 2 ^ (-(3 * 400 : Nat) : Int) := ten_zpow_neg_le 400
    _ ≤ 2 ^ x.scale := zpow_le_zpow_right₀ one_le_two hscale
    _ = 4 * x.quarter := hquarter.symm
    _ ≤ 4 * x.significand * x.quarter := by
        have hpos := x.quarter_pos
        nlinarith

private theorem ten_pow_le (n : Nat) (hn : n ≠ 0) : 10 ^ (digitCount n - 1) ≤ n := by
  by_contra hlt
  by_cases hone : digitCount n - 1 = 0
  · rw [hone, pow_zero] at hlt
    omega
  · have hle := (Nat.length_toDigits_le_iff (by decide) (by omega)).mpr (not_le.mp hlt)
    rw [← digitCount] at hle
    omega

/-- The leading digit of a double is where its magnitude says. -/
theorem ten_zpow_magnitude_le (h : x.isZero = false) :
    (10 : ℚ) ^ x.magnitude ≤ 4 * x.significand * x.quarter := by
  have hpos : x.below (-400) ≠ 0 := by
    intro hzero
    have habove := x.lt_above (-400)
    rw [hzero, Nat.zero_add, Nat.cast_one, one_mul] at habove
    exact absurd (ten_zpow_le_value h) (not_le.mpr habove)
  have hdigits : (10 : ℚ) ^ (digitCount (x.below (-400)) - 1) ≤ x.below (-400) := by
    exact_mod_cast ten_pow_le _ hpos
  have hcount : 1 ≤ digitCount (x.below (-400)) := List.length_pos_iff.mpr Nat.toDigits_ne_nil
  have hmagnitude : x.magnitude = (digitCount (x.below (-400)) - 1 : Nat) + (-400 : Int) := by
    change (digitCount (x.below (-400)) : Int) - 401 = _
    omega
  rw [hmagnitude, zpow_add₀ (by norm_num), zpow_natCast]
  exact (mul_le_mul_of_nonneg_right hdigits (by positivity)).trans (x.below_le (-400))

/-- The interval is wide enough for seventeen digits. Below a power of two, where it is narrower, the
significand is as small as it can be. -/
private theorem lt_width (h : x.isZero = false) : (4 * x.significand : ℚ) <
    (x.roundingInterval.high - x.roundingInterval.low) * 10 ^ 16 := by
  have hpos := significand_pos h
  have hwidth : 4 * x.significand + x.roundingInterval.low * 10 ^ 16 < x.roundingInterval.high * 10 ^ 16 := by
    have hfraction : x.fraction < 0x10000000000000 := Nat.mod_lt _ (by decide)
    simp only [roundingInterval, significand, Bool.and_eq_true, decide_eq_true_eq] at hpos ⊢
    grind
  rw [sub_mul, lt_sub_iff_add_lt]
  exact_mod_cast hwidth

/-- Seventeen digits are always enough. -/
theorem exists_candidate?_magnitude (h : x.isZero = false) :
    ∃ c, x.candidate? (x.magnitude - 16) = some c := by
  have hleading := ten_zpow_magnitude_le h
  have hgrid : (10 : ℚ) ^ (x.magnitude - 16) * 10 ^ 16 = 10 ^ x.magnitude := by
    rw [← zpow_natCast, ← zpow_add₀ (by norm_num)]
    congr 1
    omega
  have hpos : (0 : ℚ) < 10 ^ (x.magnitude - 16) := zpow_pos (by norm_num) _
  apply exists_candidate? h
  · rw [boundary_order h, boundary_succ_order, ← sub_mul]
    have hwidth := mul_lt_mul_of_pos_right (lt_width h) x.quarter_pos
    nlinarith
  · nlinarith

end Binary64

private theorem Decimal.toRat_trim_go (n : Nat) (d : Decimal) : (Decimal.trim.go n d).toRat = d.toRat := by
  induction n generalizing d with
  | zero => rfl
  | succ n ih =>
    rw [Decimal.trim.go]
    split
    · next htrailing =>
      rw [Bool.and_eq_true, decide_eq_true_eq, decide_eq_true_eq] at htrailing
      have hdigits : (d.digits : ℚ) = (d.digits / 10 : Nat) * 10 := by
        exact_mod_cast (Nat.div_mul_cancel (Nat.dvd_of_mod_eq_zero htrailing.2)).symm
      rw [ih, Decimal.toRat, Decimal.toRat, hdigits, zpow_add₀ (by norm_num)]
      ring
    · rfl

theorem Decimal.toRat_trim (d : Decimal) : d.trim.toRat = d.toRat := Decimal.toRat_trim_go 20 d

namespace Binary64
variable {x y : Binary64}

/-- The shortest decimal of a double rounds to the double. -/
theorem rounds_shortest (h : x.isZero = false) :
    x.shortest.toRat ≠ 0 ∧ x.Rounds x.shortest.toRat := by
  obtain ⟨c, hc⟩ := exists_candidate?_magnitude h
  have hsome : ((List.range 17).findSome? fun (n : Nat) =>
      (x.candidate? (x.magnitude - n)).map fun c => Decimal.mk c (x.magnitude - n)).isSome := by
    rw [List.findSome?_isSome_iff]
    refine ⟨16, by decide, ?_⟩
    rw [Option.isSome_map]
    exact Option.isSome_of_eq_some hc
  obtain ⟨d, hd⟩ := Option.isSome_iff_exists.mp hsome
  have hshortest : x.shortest = d.trim := by
    rw [shortest, h]
    exact congrArg (fun o => (Option.getD o ⟨0, 0⟩).trim) hd
  obtain ⟨n, -, hn⟩ := List.exists_of_findSome?_eq_some hd
  obtain ⟨k, hk, rfl⟩ := Option.map_eq_some_iff.mp hn
  obtain ⟨hpos, hrounds⟩ := candidate?_rounds h hk
  rw [hshortest, Decimal.toRat_trim]
  exact ⟨mul_ne_zero (Nat.cast_ne_zero.mpr hpos) (zpow_ne_zero _ (by norm_num)), hrounds⟩

theorem toRat_shortest_zero (h : x.isZero = true) : x.shortest.toRat = 0 := by
  rw [shortest, if_pos h]
  exact zero_mul _

/-- Doubles with one shortest decimal differ in their signs only. -/
theorem order_eq_of_toRat (h : x.shortest.toRat = y.shortest.toRat) : x.order = y.order := by
  cases hx : x.isZero with
  | true =>
    cases hy : y.isZero with
    | true => rw [order_eq_zero_iff.mpr hx, order_eq_zero_iff.mpr hy]
    | false => exact absurd (h.symm.trans (toRat_shortest_zero hx)) (rounds_shortest hy).1
  | false =>
    cases hy : y.isZero with
    | true => exact absurd (h.trans (toRat_shortest_zero hy)) (rounds_shortest hx).1
    | false =>
      have hrounds := (rounds_shortest hy).2
      rw [← h] at hrounds
      exact (rounds_shortest hx).2.order_eq hrounds

theorem toList_render (h : x.isFinite = true) (style : NumberStyle) : (x.render style).toList =
    (if x.isNegative then ['-'] else []) ++ x.shortest.render style := by
  have hnumber : x.isNaN = false := by
    rw [isFinite, decide_eq_true_eq] at h
    simp [isNaN, h]
  rw [render, hnumber, if_neg Bool.false_ne_true, h]
  dsimp only
  rw [if_pos rfl]
  rw [String.toList_append, String.toList_ofList]
  split <;> rfl

/-- A finite double is told by its text. -/
theorem render_injective (hx : x.isFinite = true) (hy : y.isFinite = true) {style : NumberStyle}
    (h : (x.render style).toList = (y.render style).toList) : x = y := by
  rw [toList_render hx, toList_render hy] at h
  have hsign (z w : Binary64) : '-' :: z.shortest.render style ≠ w.shortest.render style := by
    obtain ⟨c, r, hr, hc⟩ := w.shortest.exists_digit_render style
    intro heq
    obtain ⟨rfl, -⟩ := List.cons.inj (heq.trans hr)
    cases hc
  have htext : x.isNegative = y.isNegative ∧ x.shortest.render style = y.shortest.render style := by
    cases hnx : x.isNegative <;> cases hny : y.isNegative <;> rw [hnx, hny] at h
    · exact ⟨rfl, h⟩
    · exact absurd h.symm (hsign y x)
    · exact absurd h (hsign x y)
    · exact ⟨rfl, List.tail_eq_of_cons_eq h⟩
  have hvalue := congrArg Decimal.read htext.2
  rw [Decimal.read_render, Decimal.read_render] at hvalue
  exact ext_order htext.1 (order_eq_of_toRat hvalue)

end Binary64
end Turnstile

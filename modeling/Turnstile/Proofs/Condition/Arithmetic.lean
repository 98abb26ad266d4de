import Mathlib.Algebra.Order.Ring.Int
import Turnstile.Condition.Standard

/-! Division of whole numbers in conditions. It is exact where it has a result at all, so that no condition holds by
what a division without a quotient might leave. -/
namespace Turnstile.Condition.Value

section Signed
variable {m n q r : Int64}

/-- A number can be divided by another one, or neither quotient nor remainder can be told. -/
theorem intDivisor_cases (m n : Int64) :
    (n ≠ 0 ∧ (m ≠ Int64.minValue ∨ n ≠ -1)) ∧ intDivisor m n = .ok n ∨
      (n = 0 ∨ m = Int64.minValue ∧ n = -1) ∧ ∃ fault, intDivisor m n = .error fault := by
  by_cases hzero : n = 0
  · exact .inr ⟨.inl hzero, _, if_pos hzero⟩
  · by_cases hleast : m = Int64.minValue ∧ n = -1
    · exact .inr ⟨.inr hleast, _, by rw [intDivisor, if_neg hzero, if_pos hleast]⟩
    · exact .inl ⟨⟨hzero, not_and_or.mp hleast⟩, by rw [intDivisor, if_neg hzero, if_neg hleast]⟩

/-- There is a quotient exactly if it is in range. -/
theorem intOperation_div_eq_ok_iff : intOperation .div m n = .ok q ↔ n ≠ 0 ∧ q.toInt = m.toInt.tdiv n.toInt := by
  rw [intOperation]
  rcases intDivisor_cases m n with ⟨⟨hzero, hrange⟩, hdivisor⟩ | ⟨hnone, fault, hfault⟩
  · have hexact : (m / n).toInt = m.toInt.tdiv n.toInt :=
      hrange.elim (Int64.toInt_div_of_ne_left m n) (Int64.toInt_div_of_ne_right m n)
    rw [hdivisor, and_iff_right hzero, ← hexact, Int64.toInt_inj]
    exact ⟨fun h => (Except.ok.inj h).symm, fun h => congrArg Except.ok h.symm⟩
  · rw [hfault]
    constructor
    · intro h
      cases h
    · rintro ⟨hzero, hq⟩
      obtain ⟨rfl, rfl⟩ := hnone.resolve_left hzero
      have houtside : Int64.minValue.toInt.tdiv (-1 : Int64).toInt = 2 ^ 63 := by decide
      have hbound := q.toInt_lt
      omega

/-- What a quotient leaves is the remainder, and there is none without a quotient. -/
theorem intOperation_rem_eq_ok_iff : intOperation .rem m n = .ok r ↔
    ∃ q, intOperation .div m n = .ok q ∧ m.toInt = n.toInt * q.toInt + r.toInt := by
  rcases intDivisor_cases m n with ⟨-, hdivisor⟩ | ⟨-, fault, hfault⟩
  · have hquotient : intOperation .div m n = .ok (m / n) := by rw [intOperation, hdivisor]; rfl
    have hremainder : intOperation .rem m n = .ok (m % n) := by rw [intOperation, hdivisor]; rfl
    have hwhole : m.toInt = n.toInt * (m / n).toInt + (m % n).toInt := by
      rw [(intOperation_div_eq_ok_iff.mp hquotient).2, Int64.toInt_mod, Int.mul_tdiv_add_tmod]
    rw [hremainder]
    constructor
    · intro h
      obtain rfl := Except.ok.inj h
      exact ⟨m / n, hquotient, hwhole⟩
    · rintro ⟨q, hq, hm⟩
      obtain rfl := Except.ok.inj (hquotient.symm.trans hq)
      have hsame : (m % n).toInt = r.toInt := by omega
      exact congrArg Except.ok (Int64.toInt_inj.mp hsame)
  · have hnone (op : Arithmetic) (hop : op = .div ∨ op = .rem) (x : Int64) : intOperation op m n ≠ .ok x := by
      rcases hop with rfl | rfl <;> rw [intOperation, hfault] <;> exact nofun
    exact ⟨fun h => absurd h (hnone _ (.inr rfl) _), fun ⟨_, hq, _⟩ => absurd hq (hnone _ (.inl rfl) _)⟩

end Signed

theorem uintOperation_div_eq_ok_iff {m n q : UInt64} :
    uintOperation .div m n = .ok q ↔ n ≠ 0 ∧ q.toNat = m.toNat / n.toNat := by
  rw [uintOperation, uintDivisor, ← UInt64.toNat_div, UInt64.toNat_inj]
  by_cases hzero : n = 0
  · simp [hzero, Except.map]
  · rw [if_neg hzero, and_iff_right hzero]
    exact ⟨fun h => (Except.ok.inj h).symm, fun h => congrArg Except.ok h.symm⟩

theorem uintOperation_rem_eq_ok_iff {m n r : UInt64} :
    uintOperation .rem m n = .ok r ↔ n ≠ 0 ∧ r.toNat = m.toNat % n.toNat := by
  rw [uintOperation, uintDivisor, ← UInt64.toNat_mod, UInt64.toNat_inj]
  by_cases hzero : n = 0
  · simp [hzero, Except.map]
  · rw [if_neg hzero, and_iff_right hzero]
    exact ⟨fun h => (Except.ok.inj h).symm, fun h => congrArg Except.ok h.symm⟩

end Turnstile.Condition.Value

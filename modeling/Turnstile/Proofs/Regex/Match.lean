import Mathlib.Logic.Function.Iterate
import Turnstile.Regex.Match

/-! Matching by sets of positions finds what an expression matches: from a set of starts it computes exactly
the ends of the spans that begin there. -/
namespace Turnstile.Regex

section Spans
variable {t : List Char} {r a b : Regex} {i j : Nat}

theorem spans_empty_iff : Spans t .empty i j ↔ i = j ∧ i ≤ t.length := by
  constructor
  · rintro (h | _)
    exact ⟨rfl, h⟩
  · rintro ⟨rfl, h⟩
    exact .empty h

theorem spans_chars_iff {k : CharClass} :
    Spans t (.chars k) i j ↔ j = i + 1 ∧ ∃ c, t[i]? = some c ∧ k.mem c = true := by
  constructor
  · rintro (_ | ⟨hc, hk⟩)
    exact ⟨rfl, _, hc, hk⟩
  · rintro ⟨rfl, c, hc, hk⟩
    exact .chars hc hk

theorem spans_assert_iff {p : Assertion} : Spans t (.assert p) i j ↔
    i = j ∧ i ≤ t.length ∧ p.holds (if i = 0 then none else t[i - 1]?) t[i]? = true := by
  constructor
  · rintro (_ | _ | ⟨hi, hp⟩)
    exact ⟨rfl, hi, hp⟩
  · rintro ⟨rfl, hi, hp⟩
    exact .assert hi hp

theorem spans_cat_iff : Spans t (.cat a b) i j ↔ ∃ m, Spans t a i m ∧ Spans t b m j := by
  constructor
  · rintro (_ | _ | _ | ⟨ha, hb⟩)
    exact ⟨_, ha, hb⟩
  · rintro ⟨m, ha, hb⟩
    exact .cat ha hb

theorem spans_alt_iff : Spans t (.alt a b) i j ↔ Spans t a i j ∨ Spans t b i j := by
  constructor
  · rintro (_ | _ | _ | _ | h | h)
    · exact .inl h
    · exact .inr h
  · rintro (h | h)
    · exact .altLeft h
    · exact .altRight h

theorem Spans.le (h : Spans t r i j) : i ≤ j ∧ j ≤ t.length := by
  induction h with
  | empty hi => exact ⟨Nat.le_refl _, hi⟩
  | @chars k i c hc _ =>
    obtain ⟨hi, -⟩ := List.getElem?_eq_some_iff.mp hc
    exact ⟨Nat.le_succ i, hi⟩
  | assert hi _ => exact ⟨Nat.le_refl _, hi⟩
  | cat _ _ iha ihb => exact ⟨Nat.le_trans iha.1 ihb.1, ihb.2⟩
  | altLeft _ ih => exact ih
  | altRight _ ih => exact ih
  | done hi => exact ⟨Nat.le_refl _, hi⟩
  | again _ _ _ ihr ih => exact ⟨Nat.le_trans ihr.1 ih.1, ih.2⟩

end Spans

section Row
variable {R : Nat → Nat → Prop} {i j k l : Nat}

/-- So many steps in a row. -/
def Row (R : Nat → Nat → Prop) : Nat → Nat → Nat → Prop
  | 0, i, j => i = j
  | k + 1, i, j => ∃ m, R i m ∧ Row R k m j

theorem row_add : Row R (k + l) i j ↔ ∃ m, Row R k i m ∧ Row R l m j := by
  induction k generalizing i with
  | zero => simp [Row]
  | succ k ih =>
    rw [Nat.succ_add]
    simp only [Row, ih]
    constructor
    · rintro ⟨m, hm, n, hn, hl⟩
      exact ⟨n, ⟨m, hm, hn⟩, hl⟩
    · rintro ⟨n, ⟨m, hm, hn⟩, hl⟩
      exact ⟨m, hm, n, hn, hl⟩

/-- Where every step may be left out, there may be fewer of them. -/
theorem row_refl_iff : Row (fun i j => i = j ∨ R i j) k i j ↔ ∃ l ≤ k, Row R l i j := by
  induction k generalizing i with
  | zero =>
    constructor
    · rintro rfl
      exact ⟨0, Nat.le_refl 0, rfl⟩
    · rintro ⟨l, hl, h⟩
      obtain rfl := Nat.le_zero.mp hl
      exact h
  | succ k ih =>
    simp only [Row, ih]
    constructor
    · rintro ⟨m, rfl | hm, l, hl, h⟩
      · exact ⟨l, Nat.le_succ_of_le hl, h⟩
      · exact ⟨l + 1, Nat.succ_le_succ hl, m, hm, h⟩
    · rintro ⟨l, hl, h⟩
      cases l with
      | zero => exact ⟨i, .inl rfl, 0, Nat.zero_le k, h⟩
      | succ l =>
        obtain ⟨m, hm, h⟩ := h
        exact ⟨m, .inr hm, l, Nat.le_of_succ_le_succ hl, h⟩

/-- Steps that never go back need not stand still, so a row need not have more steps than its length. -/
theorem exists_short_row (hR : ∀ i j, R i j → i ≤ j) (h : Row R k i j) :
    i ≤ j ∧ ∃ l ≤ j - i, Row R l i j := by
  induction k generalizing i with
  | zero =>
    obtain rfl := h
    exact ⟨Nat.le_refl i, 0, Nat.zero_le _, rfl⟩
  | succ k ih =>
    obtain ⟨m, hm, h⟩ := h
    obtain ⟨hmj, l, hl, hrow⟩ := ih h
    have him := hR i m hm
    refine ⟨Nat.le_trans him hmj, ?_⟩
    by_cases heq : i = m
    · subst heq
      exact ⟨l, hl, hrow⟩
    · exact ⟨l + 1, by omega, m, hm, hrow⟩

end Row

/-- A repetition is a row of matches, not too few and not too many. -/
theorem spans_times_iff {t : List Char} {r : Regex} {low : Nat} {high : Option Nat} {i j : Nat} :
    Spans t (.times r low high) i j ↔
      i ≤ t.length ∧ ∃ k, low ≤ k ∧ (∀ h, high = some h → k ≤ h) ∧ Row (Spans t r) k i j := by
  constructor
  · intro h
    generalize hq : Regex.times r low high = q at h
    induction h generalizing low high with
    | done hi =>
      cases hq
      exact ⟨hi, 0, Nat.le_refl 0, fun h _ => Nat.zero_le h, rfl⟩
    | again hhigh hr _ _ ih =>
      cases hq
      obtain ⟨-, k, hlow, hk, hrow⟩ := ih rfl
      refine ⟨Nat.le_trans hr.le.1 hr.le.2, k + 1, by omega, ?_, _, hr, hrow⟩
      rintro h rfl
      have hpos : h ≠ 0 := fun hz => hhigh (congrArg some hz)
      have hle := hk (h - 1) rfl
      omega
    | _ => cases hq
  · rintro ⟨hi, k, hlow, hk, hrow⟩
    induction k generalizing low high i with
    | zero =>
      obtain rfl := hrow
      obtain rfl := Nat.le_zero.mp hlow
      exact .done hi
    | succ k ih =>
      obtain ⟨m, hr, hrow⟩ := hrow
      refine .again ?_ hr (ih hr.le.2 (by omega) ?_ hrow)
      · rintro rfl
        exact Nat.not_succ_le_zero k (hk 0 rfl)
      · intro h hh
        obtain ⟨g, rfl, rfl⟩ := Option.map_eq_some_iff.mp hh
        exact Nat.le_sub_one_of_lt (hk g rfl)

section Bits
variable {n s i j k : Nat} {R S : Nat → Nat → Prop} {f g : Nat → Nat}

/-- A set of positions up to a last one. -/
def Bounded (n s : Nat) : Prop := ∀ i, s.testBit i = true → i ≤ n

def Within (n : Nat) (R : Nat → Nat → Prop) : Prop := ∀ i j, R i j → i ≤ n → j ≤ n

theorem Within.row (h : Within n R) (k : Nat) : Within n (Row R k) := by
  induction k with
  | zero =>
    rintro i _ rfl hi
    exact hi
  | succ k ih =>
    rintro i j ⟨m, hm, hrow⟩ hi
    exact ih m j hrow (h i m hm hi)

/-- Sets of positions are mapped along a relation. -/
def Carries (n : Nat) (R : Nat → Nat → Prop) (f : Nat → Nat) : Prop :=
  ∀ s, Bounded n s → ∀ j, (f s).testBit j = true ↔ ∃ i, s.testBit i = true ∧ R i j

theorem Carries.bounded (hf : Carries n R f) (hR : Within n R) (hs : Bounded n s) :
    Bounded n (f s) := by
  intro j hj
  obtain ⟨i, hi, h⟩ := (hf s hs j).mp hj
  exact hR i j h (hs i hi)

theorem Carries.comp (hf : Carries n R f) (hR : Within n R) (hg : Carries n S g) :
    Carries n (fun i j => ∃ m, R i m ∧ S m j) fun s => g (f s) := by
  intro s hs j
  rw [hg (f s) (hf.bounded hR hs)]
  simp only [hf s hs]
  constructor
  · rintro ⟨m, ⟨i, hi, hr⟩, hm⟩
    exact ⟨i, hi, m, hr, hm⟩
  · rintro ⟨i, hi, m, hr, hm⟩
    exact ⟨m, ⟨i, hi, hr⟩, hm⟩

theorem Carries.union (hf : Carries n R f) (hg : Carries n S g) :
    Carries n (fun i j => R i j ∨ S i j) fun s => f s ||| g s := by
  intro s hs j
  rw [Nat.testBit_or, Bool.or_eq_true, hf s hs, hg s hs]
  simp only [and_or_left, exists_or]

theorem carries_id (n : Nat) : Carries n (fun i j => i = j) id := by
  intro s _ j
  simp only [id, exists_eq_right]

private theorem Carries.row (hf : Carries n R f) (hR : Within n R) (k : Nat) :
    Carries n (Row R k) f^[k] := by
  induction k with
  | zero => exact carries_id n
  | succ k ih => exact hf.comp hR ih

theorem Carries.iterate (hf : Carries n R f) (hR : Within n R) (k : Nat) :
    Carries n (Row R k) (Regex.iterate f k) := by
  have hiterate (s : Nat) : Regex.iterate f k s = f^[k] s := by
    induction k generalizing s with
    | zero => rfl
    | succ k ih =>
      rw [Regex.iterate]
      by_cases h : f s = s
      · rw [if_pos h, Function.iterate_fixed h]
      · rw [if_neg h, ih, Function.iterate_succ_apply]
  intro s hs j
  rw [hiterate]
  exact hf.row hR k s hs j

theorem Carries.closure (hf : Carries n R f) (hR : Within n R) (k : Nat) :
    Carries n (fun i j => ∃ l ≤ k, Row R l i j) (Regex.closure f k) := by
  have hclosure (s : Nat) : Regex.closure f k s = (fun s => s ||| f s)^[k] s := by
    induction k generalizing s with
    | zero => rfl
    | succ k ih =>
      rw [Regex.closure]
      by_cases h : s ||| f s = s
      · rw [if_pos h, Function.iterate_fixed h]
      · rw [if_neg h, ih, Function.iterate_succ_apply]
  have hwithin : Within n fun i j => i = j ∨ R i j := by
    rintro i j (rfl | h) hi
    · exact hi
    · exact hR i j h hi
  have hstep : Carries n (fun i j => i = j ∨ R i j) fun s => s ||| f s := (carries_id n).union hf
  intro s hs j
  rw [hclosure, hstep.row hwithin k s hs]
  simp only [row_refl_iff]

end Bits

section Ends
variable {t : List Char} {i j : Nat}

private theorem testBit_double_add (x : Nat) (p : Bool) :
    ∀ i, (2 * x + if p then 1 else 0).testBit i = if i = 0 then p else x.testBit (i - 1)
  | 0 => by cases p <;> simp [Nat.testBit_zero, Nat.add_mod]
  | i + 1 => by
    have hhalf : (2 * x + if p then 1 else 0) / 2 = x := by split <;> omega
    rw [Nat.testBit_add_one, hhalf, if_neg (Nat.succ_ne_zero i), Nat.add_sub_cancel]

theorem testBit_charMask {p : Char → Bool} :
    (charMask p t).testBit i = true ↔ ∃ c, t[i]? = some c ∧ p c = true := by
  induction t generalizing i with
  | nil => simp [charMask]
  | cons c t ih =>
    rw [charMask, testBit_double_add]
    cases i with
    | zero => simp
    | succ i => simpa using ih

theorem testBit_assertMask {a : Assertion} {before : Option Char} :
    (assertMask a before t).testBit i = true ↔
      i ≤ t.length ∧ a.holds (if i = 0 then before else t[i - 1]?) t[i]? = true := by
  induction t generalizing before i with
  | nil =>
    rw [assertMask]
    cases i with
    | zero => cases h : a.holds before none <;> simp [h]
    | succ i => split <;> simp [Nat.testBit_add_one]
  | cons c t ih =>
    rw [assertMask, testBit_double_add]
    cases i with
    | zero => simp
    | succ i =>
      rw [if_neg (Nat.succ_ne_zero i), Nat.add_sub_cancel, ih]
      cases i <;> simp

/-- No repetition has a limit below its least count. -/
def Ordered : Regex → Prop
  | .empty | .chars _ | .assert _ => True
  | .cat a b | .alt a b => a.Ordered ∧ b.Ordered
  | .times r low high => r.Ordered ∧ ∀ h, high = some h → low ≤ h

theorem within_spans (t : List Char) (r : Regex) : Within t.length (Spans t r) :=
  fun _ _ h _ => h.le.2

section Times
variable {r : Regex} {low : Nat}

private theorem exists_row_add {k : Nat} (hk : low ≤ k) (h : Row (Spans t r) k i j) :
    ∃ m, Row (Spans t r) low i m ∧ Row (Spans t r) (k - low) m j := by
  rw [← Nat.add_sub_cancel' hk] at h
  exact row_add.mp h

private theorem spans_times_some_iff {high : Nat} (h : low ≤ high) :
    Spans t (.times r low (some high)) i j ↔ i ≤ t.length ∧
      ∃ m, Row (Spans t r) low i m ∧ ∃ k ≤ high - low, Row (Spans t r) k m j := by
  rw [spans_times_iff]
  refine and_congr_right fun _ => ?_
  constructor
  · rintro ⟨k, hlow, hhigh, hrow⟩
    obtain ⟨m, hfirst, hrest⟩ := exists_row_add hlow hrow
    exact ⟨m, hfirst, k - low, Nat.sub_le_sub_right (hhigh high rfl) low, hrest⟩
  · rintro ⟨m, hfirst, k, hk, hrest⟩
    refine ⟨low + k, Nat.le_add_right .., fun l hl => ?_, row_add.mpr ⟨m, hfirst, hrest⟩⟩
    obtain rfl := Option.some.inj hl
    omega

/-- Without a limit as many matches count as the text has room for. -/
private theorem spans_times_none_iff : Spans t (.times r low none) i j ↔ i ≤ t.length ∧
    ∃ m, Row (Spans t r) low i m ∧ ∃ k ≤ t.length + 1, Row (Spans t r) k m j := by
  rw [spans_times_iff]
  refine and_congr_right fun hi => ?_
  constructor
  · rintro ⟨k, hlow, -, hrow⟩
    obtain ⟨m, hfirst, hrest⟩ := exists_row_add hlow hrow
    obtain ⟨-, l, hl, hshort⟩ := exists_short_row (fun _ _ h => h.le.1) hrest
    have hj := (within_spans t r).row k i j hrow hi
    exact ⟨m, hfirst, l, by omega, hshort⟩
  · rintro ⟨m, hfirst, k, -, hrest⟩
    exact ⟨low + k, Nat.le_add_right .., fun _ h => (nomatch h), row_add.mpr ⟨m, hfirst, hrest⟩⟩

end Times

/-- From a set of starts the ends of all spans are computed. -/
theorem carries_ends {r : Regex} (h : r.Ordered) : Carries t.length (Spans t r) (ends t r) := by
  induction r with
  | empty =>
    intro s hs j
    simp only [ends, spans_empty_iff]
    constructor
    · intro hj
      exact ⟨j, hj, rfl, hs j hj⟩
    · rintro ⟨_, hi, rfl, -⟩
      exact hi
  | chars k =>
    intro s hs j
    have hshift := testBit_double_add (s &&& charMask k.mem t) false j
    rw [if_neg Bool.false_ne_true, Nat.add_zero] at hshift
    rw [ends, hshift]
    simp only [spans_chars_iff]
    cases j with
    | zero => simp
    | succ j =>
      rw [if_neg (Nat.succ_ne_zero j), Nat.add_sub_cancel, Nat.testBit_and, Bool.and_eq_true,
        testBit_charMask]
      constructor
      · rintro ⟨hj, hc⟩
        exact ⟨j, hj, rfl, hc⟩
      · rintro ⟨i, hi, hij, hc⟩
        obtain rfl := Nat.succ.inj hij
        exact ⟨hi, hc⟩
  | assert a =>
    intro s hs j
    rw [ends, Nat.testBit_and, Bool.and_eq_true, testBit_assertMask]
    simp only [spans_assert_iff]
    constructor
    · rintro ⟨hj, ha⟩
      exact ⟨j, hj, rfl, ha⟩
    · rintro ⟨_, hi, rfl, ha⟩
      exact ⟨hi, ha⟩
  | cat a b iha ihb =>
    intro s hs j
    rw [ends, (iha h.1).comp (within_spans t a) (ihb h.2) s hs]
    simp only [spans_cat_iff]
  | alt a b iha ihb =>
    intro s hs j
    rw [ends, (iha h.1).union (ihb h.2) s hs]
    simp only [spans_alt_iff]
  | times r low high ih =>
    obtain ⟨hr, hle⟩ := h
    have hstep := ih hr
    have hlow := hstep.iterate (within_spans t r) low
    intro s hs j
    cases high with
    | none =>
      rw [ends, hlow.comp ((within_spans t r).row low)
        (hstep.closure (within_spans t r) (t.length + 1)) s hs]
      refine exists_congr fun i => and_congr_right fun hi => ?_
      rw [spans_times_none_iff, and_iff_right (hs i hi)]
    | some high =>
      rw [ends, hlow.comp ((within_spans t r).row low)
        (hstep.closure (within_spans t r) (high - low)) s hs]
      refine exists_congr fun i => and_congr_right fun hi => ?_
      rw [spans_times_some_iff (hle high rfl), and_iff_right (hs i hi)]

/-- Matching finds out whether the expression matches somewhere. -/
theorem matchesText_iff {r : Regex} (h : r.Ordered) : r.matchesText t = true ↔ Occurs r t := by
  have hbit (i : Nat) : (Nat.pow 2 (t.length + 1) - 1).testBit i = true ↔ i ≤ t.length := by
    rw [Nat.pow_eq, Nat.testBit_two_pow_sub_one, decide_eq_true_iff, Nat.lt_succ_iff]
  have hends := carries_ends h _ fun i hi => (hbit i).mp hi
  rw [matchesText, decide_eq_true_iff]
  constructor
  · intro hne
    obtain ⟨j, hj⟩ := Nat.exists_testBit_of_ne_zero hne
    obtain ⟨i, -, hspan⟩ := (hends j).mp hj
    exact ⟨i, j, hspan⟩
  · rintro ⟨i, j, hspan⟩ hzero
    have hj := (hends j).mpr ⟨i, (hbit i).mpr (Nat.le_trans hspan.le.1 hspan.le.2), hspan⟩
    rw [hzero, Nat.zero_testBit] at hj
    cases hj

end Ends
end Turnstile.Regex

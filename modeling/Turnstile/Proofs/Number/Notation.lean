import Mathlib.Algebra.Order.Field.Rat
import Mathlib.Tactic.FieldSimp
import Mathlib.Tactic.Ring
import Turnstile.Number.Notation

/-! A written decimal determines the number that it stands for, in every style. -/
namespace Turnstile

private theorem natOfDigits_eq (cs : List Char) : natOfDigits cs = Nat.ofDigitChars 10 cs 0 :=
  Nat.ofDigitChars_eq_foldl.symm

theorem natOfDigits_toDigits (n : Nat) : natOfDigits (Nat.toDigits 10 n) = n := by
  rw [natOfDigits_eq, Nat.ofDigitChars_ten_toDigits]

theorem natOfDigits_append (a b : List Char) :
    natOfDigits (a ++ b) = natOfDigits a * 10 ^ b.length + natOfDigits b := by
  have h : natOfDigits (a ++ b) = Nat.ofDigitChars 10 b (natOfDigits a) := by
    rw [natOfDigits, List.foldl_append, Nat.ofDigitChars_eq_foldl]
    rfl
  rw [h, Nat.ofDigitChars_eq_ofDigitChars_zero, ← natOfDigits_eq, Nat.mul_comm]

theorem natOfDigits_zeros (n : Nat) : natOfDigits (Decimal.zeros n) = 0 := by
  induction n with
  | zero => rfl
  | succ n ih =>
    rw [Decimal.zeros, List.replicate_succ', natOfDigits_append, ← Decimal.zeros, ih, Nat.zero_mul]
    rfl

/-- Digits end where something else begins. -/
theorem takeDigits_append {digits rest : List Char} (hdigits : ∀ c ∈ digits, c.isDigit = true)
    (hrest : ∀ c ∈ rest.head?, c.isDigit = false) : takeDigits (digits ++ rest) = (digits, rest) := by
  rw [takeDigits, List.span_eq_takeWhile_dropWhile, List.takeWhile_append_of_pos hdigits,
    List.dropWhile_append_of_pos hdigits]
  cases rest with
  | nil => simp
  | cons c rest =>
    have hc := hrest c rfl
    rw [List.takeWhile_cons_of_neg (by simp [hc]), List.dropWhile_cons_of_neg (by simp [hc]),
      List.append_nil]

namespace Decimal

/-- The number that a decimal stands for. -/
def toRat (d : Decimal) : ℚ := d.digits * 10 ^ d.exponent

/-- An exponent with its mark; nothing stands for zero. -/
def readExponent : List Char → Int
  | 'e' :: '-' :: r => -(natOfDigits r : Int)
  | 'e' :: '+' :: r => natOfDigits r
  | 'e' :: r => natOfDigits r
  | _ => 0

/-- The number that is written: digits with an optional point, and an optional exponent. -/
def read (cs : List Char) : ℚ :=
  let (whole, r) := takeDigits cs
  let (places, r) := match r with
    | '.' :: r => takeDigits r
    | r => ([], r)
  natOfDigits (whole ++ places) * 10 ^ (readExponent r - places.length)

section Read
variable {whole places rest : List Char} (hwhole : ∀ c ∈ whole, c.isDigit = true)
  (hplaces : ∀ c ∈ places, c.isDigit = true) (hrest : ∀ c ∈ rest.head?, c.isDigit = false)
include hwhole hrest

theorem read_whole (hpoint : '.' ∉ rest.head?) :
    read (whole ++ rest) = natOfDigits whole * 10 ^ readExponent rest := by
  rw [read, takeDigits_append hwhole hrest]
  dsimp only
  split
  · next r hr => exact absurd rfl (hpoint · )
  · rw [List.append_nil, List.length_nil, Nat.cast_zero, sub_zero]

include hplaces in
theorem read_point : read (whole ++ '.' :: (places ++ rest)) =
    natOfDigits (whole ++ places) * 10 ^ (readExponent rest - places.length) := by
  have hdot : ∀ c ∈ ('.' :: (places ++ rest)).head?, c.isDigit = false := by
    intro c hc
    obtain rfl := Option.some.inj hc
    rfl
  rw [read, takeDigits_append hwhole hdot]
  change (natOfDigits (whole ++ (takeDigits (places ++ rest)).1) : ℚ) *
    10 ^ (readExponent (takeDigits (places ++ rest)).2 - (takeDigits (places ++ rest)).1.length) = _
  rw [takeDigits_append hplaces hrest]

end Read

private theorem isDigit_text (d : Decimal) : ∀ c ∈ d.text, c.isDigit = true :=
  fun _ => Nat.isDigit_of_mem_toDigits (by decide) (by decide)

private theorem isDigit_zeros (n : Nat) : ∀ c ∈ zeros n, c.isDigit = true := by
  intro c hc
  rw [List.eq_of_mem_replicate hc]
  rfl

private theorem natOfDigits_text (d : Decimal) : natOfDigits d.text = d.digits :=
  natOfDigits_toDigits d.digits

private theorem read_places (whole places : List Char) (hwhole : ∀ c ∈ whole, c.isDigit = true)
    (hplaces : ∀ c ∈ places, c.isDigit = true) :
    read (whole ++ '.' :: places) = natOfDigits (whole ++ places) * 10 ^ (-(places.length : Int)) := by
  have hread := @read_point whole places [] hwhole hplaces fun c hc => nomatch hc
  rw [List.append_nil] at hread
  rw [hread, ← zero_sub]
  rfl

private theorem read_positional (d : Decimal) (pointZero : Bool) :
    read (d.positional pointZero) = d.toRat := by
  rw [positional, toRat]
  by_cases hexp : 0 ≤ d.exponent
  · obtain ⟨n, hn⟩ := Int.eq_ofNat_of_zero_le hexp
    rw [if_pos hexp, hn, Int.toNat_natCast, zpow_natCast]
    have hdigits : ∀ c ∈ d.text ++ zeros n, c.isDigit = true := by
      intro c hc
      rcases List.mem_append.mp hc with hc | hc
      · exact d.isDigit_text c hc
      · exact isDigit_zeros n c hc
    have hvalue : natOfDigits (d.text ++ zeros n) = d.digits * 10 ^ n := by
      rw [natOfDigits_append, natOfDigits_text, natOfDigits_zeros, zeros, List.length_replicate,
        Nat.add_zero]
    cases pointZero with
    | true =>
      have hread := read_places _ ['0'] hdigits (List.forall_mem_singleton.mpr rfl)
      refine hread.trans ?_
      rw [natOfDigits_append, hvalue]
      change (((d.digits * 10 ^ n) * 10 ^ 1 + 0 : ℕ) : ℚ) * 10 ^ (-1 : ℤ) = _
      push_cast
      rw [zpow_neg_one]
      ring
    | false =>
      have hread := @read_whole _ [] hdigits (fun c hc => by cases hc) (fun h => by cases h)
      refine hread.trans ?_
      rw [hvalue]
      change ((d.digits * 10 ^ n : ℕ) : ℚ) * 10 ^ (0 : ℤ) = _
      rw [zpow_zero, mul_one]
      push_cast
      rfl
  · rw [if_neg hexp]
    obtain ⟨k, hk⟩ : ∃ k, (d.text.length + d.exponent : Int) = k := ⟨_, rfl⟩
    by_cases hpoint : 0 < k
    · rw [hk, if_pos hpoint, read_places _ _ (fun c hc => d.isDigit_text c (List.mem_of_mem_take hc))
        (fun c hc => d.isDigit_text c (List.mem_of_mem_drop hc)), List.take_append_drop,
        natOfDigits_text, List.length_drop]
      congr 2
      omega
    · have hplaces : ∀ c ∈ zeros (-k).toNat ++ d.text, c.isDigit = true := by
        intro c hc
        rcases List.mem_append.mp hc with hc | hc
        · exact isDigit_zeros _ c hc
        · exact d.isDigit_text c hc
      have hread := read_places ['0'] _ (List.forall_mem_singleton.mpr rfl) hplaces
      have hvalue : natOfDigits (['0'] ++ (zeros (-k).toNat ++ d.text)) = d.digits := by
        rw [natOfDigits_append, natOfDigits_append, natOfDigits_zeros, natOfDigits_text, Nat.zero_mul,
          Nat.zero_add]
        exact (congrArg (· + d.digits) (Nat.zero_mul _)).trans (Nat.zero_add _)
      rw [hvalue, List.length_append, zeros, List.length_replicate] at hread
      rw [hk, if_neg hpoint]
      refine hread.trans ?_
      congr 2
      omega

private theorem readExponent_digits (e : Int) (plusSign : Bool) :
    readExponent ('e' :: ((if e < 0 then ['-'] else if plusSign then ['+'] else []) ++
      Nat.toDigits 10 e.natAbs)) = e := by
  have hvalue := natOfDigits_toDigits e.natAbs
  by_cases he : e < 0
  · rw [if_pos he]
    change -((natOfDigits (Nat.toDigits 10 e.natAbs) : ℕ) : ℤ) = e
    rw [hvalue]
    omega
  · rw [if_neg he]
    cases plusSign with
    | true =>
      change ((natOfDigits (Nat.toDigits 10 e.natAbs) : ℕ) : ℤ) = e
      rw [hvalue]
      omega
    | false =>
      have hdigits : ∀ c ∈ Nat.toDigits 10 e.natAbs, c.isDigit = true :=
        fun _ => Nat.isDigit_of_mem_toDigits (by decide) (by decide)
      rw [if_neg Bool.false_ne_true, List.nil_append, readExponent]
      · rw [hvalue]
        omega
      · intro r hr
        exact absurd (hdigits '-' (hr ▸ List.mem_cons_self)) (by decide)
      · intro r hr
        exact absurd (hdigits '+' (hr ▸ List.mem_cons_self)) (by decide)

private theorem read_scientific (d : Decimal) (plusSign : Bool) :
    read (d.scientific plusSign) = d.toRat := by
  have hdigits := d.isDigit_text
  have hvalue := d.natOfDigits_text
  have hexponent := readExponent_digits d.leadingExponent plusSign
  have hleading : d.leadingExponent = d.exponent + d.text.length - 1 := rfl
  rw [scientific, toRat, List.append_assoc, List.cons_append]
  generalize d.leadingExponent = e at hexponent hleading ⊢
  generalize (if e < 0 then ['-'] else if plusSign then ['+'] else []) ++
    Nat.toDigits 10 e.natAbs = rest at hexponent ⊢
  have hmark : ∀ c ∈ ('e' :: rest).head?, c.isDigit = false := by
    intro c hc
    obtain rfl := Option.some.inj hc
    rfl
  cases htext : d.text with
  | nil => exact absurd htext Nat.toDigits_ne_nil
  | cons c r =>
    rw [htext] at hdigits hvalue hleading
    rw [List.length_cons] at hleading
    cases r with
    | nil =>
      have hpoint : '.' ∉ ('e' :: rest).head? := fun h => absurd (Option.some.inj h) (by decide)
      rw [read_whole hdigits hmark hpoint, hvalue, hexponent]
      congr 2
      rw [hleading, List.length_nil]
      omega
    | cons c' r =>
      have hplaces : ∀ a ∈ c' :: r, a.isDigit = true := fun a ha => hdigits a (List.mem_cons_of_mem c ha)
      have hwhole : ∀ a ∈ [c], a.isDigit = true := fun a ha =>
        hdigits a (List.mem_singleton.mp ha ▸ List.mem_cons_self)
      have hread := read_point hwhole hplaces hmark
      rw [List.singleton_append, List.singleton_append, hvalue, hexponent] at hread
      refine hread.trans ?_
      congr 2
      rw [hleading]
      omega

/-- A written decimal reads back as the number that it stands for. -/
theorem read_render (style : NumberStyle) (d : Decimal) : read (d.render style) = d.toRat := by
  rw [render]
  cases style.positional with
  | none => exact d.read_positional _
  | some range =>
    obtain ⟨low, high⟩ := range
    dsimp only
    split
    · exact d.read_positional _
    · exact d.read_scientific _

/-- A character of a written number. -/
def isMark (c : Char) : Bool := c.isDigit || c = '-' || c = '+' || c = '.' || c = 'e'

private theorem isMark_of_isDigit {c : Char} (h : c.isDigit = true) : isMark c = true := by
  simp [isMark, h]

private theorem isMark_positional (d : Decimal) (pointZero : Bool) :
    ∀ c ∈ d.positional pointZero, isMark c = true := by
  have htext : ∀ c ∈ d.text, isMark c = true := fun c hc => isMark_of_isDigit (d.isDigit_text c hc)
  have hzeros (n : Nat) : ∀ c ∈ zeros n, isMark c = true := fun c hc =>
    isMark_of_isDigit (isDigit_zeros n c hc)
  intro c hc
  rw [positional] at hc
  split at hc
  · rcases List.mem_append.mp hc with hc | hc
    · rcases List.mem_append.mp hc with hc | hc
      · exact htext c hc
      · exact hzeros _ c hc
    · cases pointZero with
      | true =>
        have hpoint : ∀ c ∈ ['.', '0'], isMark c = true := by simp [isMark]
        exact hpoint c hc
      | false => cases hc
  · split at hc
    · rcases List.mem_append.mp hc with hc | hc
      · exact htext c (List.mem_of_mem_take hc)
      · rcases List.mem_cons.mp hc with rfl | hc
        · rfl
        · exact htext c (List.mem_of_mem_drop hc)
    · rcases List.mem_append.mp hc with hc | hc
      · rcases List.mem_append.mp hc with hc | hc
        · have hpoint : ∀ c ∈ ['0', '.'], isMark c = true := by simp [isMark]
          exact hpoint c hc
        · exact hzeros _ c hc
      · exact htext c hc

private theorem isMark_scientific (d : Decimal) (plusSign : Bool) :
    ∀ c ∈ d.scientific plusSign, isMark c = true := by
  have htext : ∀ c ∈ d.text, isMark c = true := fun c hc => isMark_of_isDigit (d.isDigit_text c hc)
  have hsign : ∀ c ∈ if d.leadingExponent < 0 then ['-'] else if plusSign then ['+'] else [],
      isMark c = true := by
    split
    · simp [isMark]
    · cases plusSign <;> simp [isMark]
  intro c hc
  rw [scientific, List.append_assoc, List.cons_append] at hc
  rcases List.mem_append.mp hc with hc | hc
  · cases ht : d.text with
    | nil => exact absurd ht Nat.toDigits_ne_nil
    | cons a r =>
      rw [ht] at hc htext
      cases r with
      | nil => exact htext c hc
      | cons b r =>
        rcases List.mem_cons.mp hc with rfl | hc
        · exact htext c List.mem_cons_self
        · rcases List.mem_cons.mp hc with rfl | hc
          · rfl
          · exact htext c (List.mem_cons_of_mem a hc)
  · rcases List.mem_cons.mp hc with rfl | hc
    · rfl
    · rcases List.mem_append.mp hc with hc | hc
      · exact hsign c hc
      · exact isMark_of_isDigit (Nat.isDigit_of_mem_toDigits (by decide) (by decide) hc)

/-- The text of a decimal consists of these characters only. -/
theorem isMark_render (style : NumberStyle) (d : Decimal) : ∀ c ∈ d.render style, isMark c = true := by
  rw [render]
  cases style.positional with
  | none => exact d.isMark_positional _
  | some range =>
    obtain ⟨low, high⟩ := range
    dsimp only
    split
    · exact d.isMark_positional _
    · exact d.isMark_scientific _

/-- The text of a decimal starts with a digit. -/
theorem exists_digit_render (style : NumberStyle) (d : Decimal) :
    ∃ c r, d.render style = c :: r ∧ c.isDigit = true := by
  have hne : d.text ≠ [] := Nat.toDigits_ne_nil
  obtain ⟨c, r, htext⟩ := List.exists_cons_of_ne_nil hne
  have hc : c.isDigit = true := d.isDigit_text c (htext ▸ List.mem_cons_self)
  have hpositional (pointZero : Bool) : ∃ c r, d.positional pointZero = c :: r ∧ c.isDigit = true := by
    rw [positional]
    split
    · exact ⟨c, _, by rw [htext, List.append_assoc, List.cons_append], hc⟩
    · split
      · next hpoint =>
        obtain ⟨n, hn⟩ : ∃ n, (d.text.length + d.exponent : Int).toNat = n + 1 :=
          Nat.exists_eq_succ_of_ne_zero (by omega)
        exact ⟨c, _, by rw [hn, htext, List.take_succ_cons, List.cons_append], hc⟩
      · exact ⟨'0', _, rfl, rfl⟩
  have hscientific (plusSign : Bool) : ∃ c r, d.scientific plusSign = c :: r ∧ c.isDigit = true := by
    rw [scientific, htext, List.append_assoc]
    cases r with
    | nil => exact ⟨c, _, rfl, hc⟩
    | cons b r => exact ⟨c, _, rfl, hc⟩
  rw [render]
  split
  · exact hpositional _
  · split
    · exact hpositional _
    · exact hscientific _

/-- In data interchange the text of a floating-point number never looks like a whole number. -/
theorem exists_mark_render (d : Decimal) : ∃ c ∈ d.render .interchange, c = '.' ∨ c = 'e' := by
  have hpositional : '.' ∈ d.positional true := by
    rw [positional]
    split
    · exact List.mem_append_right _ (by decide)
    · split
      · exact List.mem_append_right _ List.mem_cons_self
      · exact List.mem_append_left _ (List.mem_append_left _ (by decide))
  have hscientific : 'e' ∈ d.scientific true := by
    rw [scientific, List.append_assoc]
    exact List.mem_append_right _ List.mem_cons_self
  rw [render, NumberStyle.interchange]
  dsimp only
  split
  · exact ⟨'.', hpositional, .inl rfl⟩
  · exact ⟨'e', hscientific, .inr rfl⟩

end Decimal
end Turnstile

import Turnstile.Json.Print
import Turnstile.Proofs.Number.Shortest

/-! The text of a value tells which value it is, also where something else follows. -/
namespace Turnstile.Json

/-- What may follow a value: nothing that could belong to a number. -/
def Delimits (rest : List Char) : Prop := ∀ c ∈ rest.head?, Decimal.isMark c = false

theorem delimits_cons {c : Char} (h : Decimal.isMark c = false) (rest : List Char) :
    Delimits (c :: rest) := by
  intro d hd
  rw [← Option.some.inj hd]
  exact h

/-! ### Strings -/

def hexValue (c : Char) : Nat := if c.isDigit then c.toNat - 48 else c.toNat - 87

/-- The first character of an escaped text, unless it ends here. -/
def readEscaped : List Char → Option (Char × List Char)
  | '\\' :: 'n' :: r => some ('\n', r)
  | '\\' :: 'r' :: r => some ('\r', r)
  | '\\' :: 't' :: r => some ('\t', r)
  | '\\' :: 'b' :: r => some ('\x08', r)
  | '\\' :: 'f' :: r => some ('\x0c', r)
  | '\\' :: 'u' :: '0' :: '0' :: a :: b :: r => some (.ofNat (16 * hexValue a + hexValue b), r)
  | '\\' :: c :: r => some (c, r)
  | '"' :: _ => none
  | c :: r => some (c, r)
  | [] => none

private theorem hexValue_hexDigit : ∀ n < 16, hexValue (hexDigit n) = n := by decide

theorem readEscaped_escapeChar (c : Char) (rest : List Char) :
    readEscaped (escapeChar c ++ rest) = some (c, rest) := by
  rw [escapeChar.eq_def]
  split
  · rfl
  · rfl
  · rfl
  · rfl
  · rfl
  · rfl
  · rfl
  · next hquote hbackslash _ _ _ _ _ =>
    split
    · next hcontrol =>
      have hhigh := hexValue_hexDigit (c.toNat / 16) (by omega)
      have hlow := hexValue_hexDigit (c.toNat % 16) (by omega)
      change some (Char.ofNat (16 * hexValue _ + hexValue _), rest) = _
      rw [hhigh, hlow, Nat.div_add_mod, Char.ofNat_toNat]
    · rw [List.singleton_append, readEscaped.eq_def]
      split <;> simp_all

private theorem escaped_append_inj {a b r s : List Char}
    (h : a.flatMap escapeChar ++ '"' :: r = b.flatMap escapeChar ++ '"' :: s) : a = b ∧ r = s := by
  have hstep (c : Char) (l t : List Char) :
      readEscaped ((c :: l).flatMap escapeChar ++ t) = some (c, l.flatMap escapeChar ++ t) := by
    rw [List.flatMap_cons, List.append_assoc, readEscaped_escapeChar]
  induction a generalizing b with
  | nil =>
    cases b with
    | nil => exact ⟨rfl, List.tail_eq_of_cons_eq h⟩
    | cons d b => exact nomatch (congrArg readEscaped h).trans (hstep d b _)
  | cons c a ih =>
    cases b with
    | nil => exact nomatch (congrArg readEscaped h).symm.trans (hstep c a _)
    | cons d b =>
      have hread := congrArg readEscaped h
      rw [hstep, hstep, Option.some.injEq, Prod.mk.injEq] at hread
      obtain ⟨rfl, hrest⟩ := hread
      obtain ⟨rfl, rfl⟩ := ih hrest
      exact ⟨rfl, rfl⟩

/-- A quoted text ends at its own closing quote. -/
theorem quote_append_inj {a b : String} {r s : List Char} (h : quote a ++ r = quote b ++ s) :
    a = b ∧ r = s := by
  rw [quote, quote, List.cons_append, List.cons_append, List.append_assoc, List.append_assoc] at h
  obtain ⟨htext, hrest⟩ := escaped_append_inj (List.tail_eq_of_cons_eq h)
  exact ⟨String.toList_inj.mp htext, hrest⟩

/-! ### Numbers -/

private theorem isMark_of_isDigit {c : Char} (h : c.isDigit = true) : Decimal.isMark c = true := by
  simp [Decimal.isMark, h]

private theorem renderNumber_whole (n : WholeNumber) : renderNumber (.whole n) =
    (if 0 ≤ n.val then [] else ['-']) ++ Nat.toDigits 10 n.val.natAbs := by
  change n.val.repr.toList = _
  rw [Int.repr_eq_if]
  split
  · next hsign =>
    have habs : n.val.toNat = n.val.natAbs := by omega
    rw [Nat.repr_eq_ofList_toDigits, String.toList_ofList, List.nil_append, habs]
  · next hsign =>
    have habs : (-n.val).toNat = n.val.natAbs := by omega
    rw [String.toList_append, Nat.repr_eq_ofList_toDigits, @String.toList_ofList (Nat.toDigits _ _), habs]
    rfl

private theorem isDigit_of_mem_whole {n : WholeNumber} {c : Char}
    (h : c ∈ renderNumber (.whole n)) : c = '-' ∨ c.isDigit = true := by
  rw [renderNumber_whole] at h
  rcases List.mem_append.mp h with h | h
  · split at h
    · cases h
    · exact .inl (List.mem_singleton.mp h)
  · exact .inr (Nat.isDigit_of_mem_toDigits (by decide) (by decide) h)

/-- The whole number that is written. -/
def readWhole : List Char → Int
  | '-' :: digits => -(natOfDigits digits : Int)
  | digits => natOfDigits digits

theorem readWhole_render (n : WholeNumber) : readWhole (renderNumber (.whole n)) = n.val := by
  have hvalue := natOfDigits_toDigits n.val.natAbs
  rw [renderNumber_whole]
  split
  · rw [List.nil_append, readWhole]
    · rw [hvalue]
      omega
    · intro digits hdigits
      have hminus : '-' ∈ Nat.toDigits 10 n.val.natAbs := hdigits ▸ List.mem_cons_self
      exact absurd (Nat.isDigit_of_mem_toDigits (by decide) (by decide) hminus) (by decide)
  · change -((natOfDigits (Nat.toDigits 10 n.val.natAbs) : Nat) : Int) = n.val
    rw [hvalue]
    omega

private theorem exists_mark_float (x : FiniteFloat) :
    ∃ c ∈ renderNumber (.float x), c = '.' ∨ c = 'e' := by
  obtain ⟨c, hc, hmark⟩ := x.value.shortest.exists_mark_render
  rw [renderNumber, Binary64.toList_render x.finite]
  exact ⟨c, List.mem_append_right _ hc, hmark⟩

private theorem whole_ne_float (n : WholeNumber) (x : FiniteFloat) :
    renderNumber (.whole n) ≠ renderNumber (.float x) := by
  intro h
  obtain ⟨c, hc, hmark⟩ := exists_mark_float x
  rw [← h] at hc
  rcases hmark with rfl | rfl
  · exact absurd (isDigit_of_mem_whole hc) (by decide)
  · exact absurd (isDigit_of_mem_whole hc) (by decide)

theorem isMark_renderNumber (n : Number) : ∀ c ∈ renderNumber n, Decimal.isMark c = true := by
  intro c hc
  cases n with
  | whole n =>
    rcases isDigit_of_mem_whole hc with rfl | hdigit
    · rfl
    · exact isMark_of_isDigit hdigit
  | float x =>
    rw [renderNumber, Binary64.toList_render x.finite] at hc
    rcases List.mem_append.mp hc with hc | hc
    · split at hc
      · rw [List.mem_singleton.mp hc]
        rfl
      · cases hc
    · exact Decimal.isMark_render _ _ c hc

theorem renderNumber_ne_nil (n : Number) : renderNumber n ≠ [] := by
  cases n with
  | whole n =>
    rw [renderNumber_whole]
    exact List.append_ne_nil_of_right_ne_nil _ Nat.toDigits_ne_nil
  | float x =>
    obtain ⟨c, hc, -⟩ := exists_mark_float x
    exact List.ne_nil_of_mem hc

theorem renderNumber_injective {m n : Number} (h : renderNumber m = renderNumber n) : m = n := by
  cases m with
  | whole m =>
    cases n with
    | whole n =>
      have hval : m.val = n.val := by rw [← readWhole_render, h, readWhole_render]
      obtain ⟨m⟩ := m
      obtain ⟨n⟩ := n
      obtain rfl := hval
      rfl
    | float y => exact absurd h (whole_ne_float m y)
  | float x =>
    cases n with
    | whole n => exact absurd h.symm (whole_ne_float n x)
    | float y =>
      have hvalue := Binary64.render_injective x.finite y.finite h
      obtain ⟨x⟩ := x
      obtain ⟨y⟩ := y
      obtain rfl := hvalue
      rfl

/-- A number ends where something else begins. -/
theorem renderNumber_append_inj {m n : Number} {r s : List Char} (hr : Delimits r) (hs : Delimits s)
    (h : renderNumber m ++ r = renderNumber n ++ s) : m = n ∧ r = s := by
  have htake (k : Number) {t : List Char} (ht : Delimits t) :
      (renderNumber k ++ t).takeWhile Decimal.isMark = renderNumber k := by
    rw [List.takeWhile_append_of_pos (isMark_renderNumber k)]
    cases t with
    | nil => exact List.append_nil _
    | cons c t =>
      have hc : ¬ Decimal.isMark c = true := Bool.not_eq_true _ ▸ ht c rfl
      rw [List.takeWhile_cons_of_neg hc, List.append_nil]
  have htext : renderNumber m = renderNumber n := by
    rw [← htake m hr, h, htake n hs]
  rw [htext] at h
  exact ⟨renderNumber_injective htext, List.append_cancel_left h⟩

/-! ### Values -/

/-- The text of a value tells the value and what follows it. -/
def Readable {α : Type} (f : α → List Char) (a : α) : Prop :=
  ∀ ⦃b r s⦄, Delimits r → Delimits s → f a ++ r = f b ++ s → a = b ∧ r = s

private theorem intercalate_cons_append {α : Type} (f : α → List Char) (separator : Char)
    (gap : List Char) (a : α) (l : List α) (rest : List Char) :
    List.intercalate (separator :: gap) ((a :: l).map f) ++ rest = f a ++ if l.isEmpty then rest
      else separator :: (gap ++ (List.intercalate (separator :: gap) (l.map f) ++ rest)) := by
  cases l with
  | nil => rw [List.map_cons, List.map_nil, List.intercalate_singleton, List.isEmpty_nil, if_pos rfl]
  | cons b l =>
    rw [List.map_cons, List.map_cons, List.intercalate_cons_cons, List.append_assoc, List.append_assoc]
    rfl

/-- A list of readable things with separators, up to the character that closes it. -/
theorem intercalate_append_inj {α : Type} {f : α → List Char} {separator close : Char}
    {gap : List Char} (hseparator : Decimal.isMark separator = false)
    (hclose : Decimal.isMark close = false) (hne : close ≠ separator)
    (hstart : ∀ a r s, f a ++ r ≠ close :: s) {l m : List α} (hl : ∀ a ∈ l, Readable f a)
    {r s : List Char} (h : List.intercalate (separator :: gap) (l.map f) ++ close :: r =
      List.intercalate (separator :: gap) (m.map f) ++ close :: s) : l = m ∧ r = s := by
  induction l generalizing m with
  | nil =>
    cases m with
    | nil => exact ⟨rfl, List.tail_eq_of_cons_eq h⟩
    | cons b m =>
      rw [intercalate_cons_append] at h
      exact absurd h.symm (hstart b _ _)
  | cons a l ih =>
    rw [intercalate_cons_append] at h
    have ha := hl a List.mem_cons_self
    have hl := fun a' ha' => hl a' (List.mem_cons_of_mem a ha')
    cases m with
    | nil => exact absurd h (hstart a _ _)
    | cons b m =>
      rw [intercalate_cons_append] at h
      have hdelimits (l : List α) (r : List Char) : Delimits (if l.isEmpty then close :: r
          else separator :: (gap ++ (List.intercalate (separator :: gap) (l.map f) ++ close :: r))) := by
        split
        · exact delimits_cons hclose _
        · exact delimits_cons hseparator _
      obtain ⟨rfl, hrest⟩ := ha (hdelimits l r) (hdelimits m s) h
      cases l with
      | nil =>
        cases m with
        | nil => exact ⟨rfl, List.tail_eq_of_cons_eq hrest⟩
        | cons b m => exact absurd (List.head_eq_of_cons_eq hrest) hne
      | cons a' l =>
        cases m with
        | nil => exact absurd (List.head_eq_of_cons_eq hrest).symm hne
        | cons b m =>
          obtain ⟨hitems, hend⟩ := ih hl (List.append_cancel_left (List.tail_eq_of_cons_eq hrest))
          exact ⟨congrArg _ hitems, hend⟩

theorem renderItems_eq (l : List Json) : renderItems l = List.intercalate [','] (l.map render) := by
  induction l with
  | nil => rfl
  | cons v l ih =>
    cases l with
    | nil => exact (List.append_nil _).symm
    | cons w l =>
      rw [renderItems, ih]
      · rfl
      · exact List.cons_ne_nil _ _

def renderMember (e : String × Json) : List Char := quote e.1 ++ ':' :: render e.2

theorem renderMembers_eq (l : List (String × Json)) :
    renderMembers l = List.intercalate [','] (l.map renderMember) := by
  induction l with
  | nil => rfl
  | cons e l ih =>
    cases l with
    | nil => exact (List.append_nil _).symm
    | cons e' l =>
      rw [renderMembers, ih]
      · rfl
      · exact List.cons_ne_nil _ _

/-- How the text of a value starts, with one mark for all numbers and for both truth values. -/
def lead : Json → Char
  | null => 'n'
  | bool _ => 't'
  | number _ => '0'
  | string _ => '"'
  | array _ => '['
  | object _ => '\x7b'

def leadOf (c : Char) : Char := if Decimal.isMark c then '0' else if c = 'f' then 't' else c

theorem exists_lead (v : Json) : ∃ c r, render v = c :: r ∧ leadOf c = lead v := by
  cases v with
  | null => exact ⟨'n', _, rfl, rfl⟩
  | bool b => cases b <;> exact ⟨_, _, rfl, rfl⟩
  | number n =>
    obtain ⟨c, r, hr⟩ := List.exists_cons_of_ne_nil (renderNumber_ne_nil n)
    have hc := isMark_renderNumber n c (hr ▸ List.mem_cons_self)
    exact ⟨c, r, hr, if_pos hc⟩
  | string s => exact ⟨'"', _, rfl, rfl⟩
  | array items => exact ⟨'[', _, rfl, rfl⟩
  | object members => exact ⟨'\x7b', _, rfl, rfl⟩

private theorem lead_eq {a b : Json} {r s : List Char} (h : render a ++ r = render b ++ s) :
    lead a = lead b := by
  obtain ⟨c, x, hx, hc⟩ := exists_lead a
  obtain ⟨d, y, hy, hd⟩ := exists_lead b
  rw [hx, hy] at h
  rw [← hc, ← hd, List.head_eq_of_cons_eq h]

theorem render_append_ne {close : Char} (hclose : leadOf close ∉ ['n', 't', '0', '"', '[', '\x7b'])
    (v : Json) (r s : List Char) : render v ++ r ≠ close :: s := by
  intro h
  obtain ⟨c, x, hx, hc⟩ := exists_lead v
  rw [hx] at h
  rw [← List.head_eq_of_cons_eq h, hc] at hclose
  cases v <;> simp [lead] at hclose

mutual
/-- The text of a value ends where the value does. -/
theorem readable_render : (a : Json) → Readable render a
  | .null => by
    intro b r s _ _ h
    cases b with
    | null => exact ⟨rfl, List.append_cancel_left h⟩
    | _ => exact absurd (lead_eq h) (by simp [lead])
  | .bool a => by
    intro b r s _ _ h
    cases b with
    | bool b =>
      cases a <;> cases b
      · exact ⟨rfl, List.append_cancel_left h⟩
      · exact absurd (List.head_eq_of_cons_eq h) (by decide)
      · exact absurd (List.head_eq_of_cons_eq h) (by decide)
      · exact ⟨rfl, List.append_cancel_left h⟩
    | _ => exact absurd (lead_eq h) (by simp [lead])
  | .number m => by
    intro b r s hr hs h
    cases b with
    | number n =>
      obtain ⟨rfl, hrest⟩ := renderNumber_append_inj hr hs h
      exact ⟨rfl, hrest⟩
    | _ => exact absurd (lead_eq h) (by simp [lead])
  | .string t => by
    intro b r s _ _ h
    cases b with
    | string u =>
      obtain ⟨rfl, hrest⟩ := quote_append_inj h
      exact ⟨rfl, hrest⟩
    | _ => exact absurd (lead_eq h) (by simp [lead])
  | .array l => by
    intro b r s _ _ h
    have hl := readable_items l
    cases b with
    | array m =>
      rw [render, render, List.cons_append, List.cons_append, List.append_assoc, List.append_assoc,
        renderItems_eq, renderItems_eq] at h
      obtain ⟨rfl, hrest⟩ := intercalate_append_inj rfl rfl (by decide)
        (render_append_ne (by decide)) hl (List.tail_eq_of_cons_eq h)
      exact ⟨rfl, hrest⟩
    | _ => exact absurd (lead_eq h) (by simp [lead])
  | .object l => by
    intro b r s _ _ h
    have hl := readable_members l
    cases b with
    | object m =>
      rw [render, render, List.cons_append, List.cons_append, List.append_assoc, List.append_assoc,
        renderMembers_eq, renderMembers_eq] at h
      have hstart (e : String × Json) (r s : List Char) : renderMember e ++ r ≠ '\x7d' :: s := fun he =>
        absurd (List.head_eq_of_cons_eq he) (by decide)
      obtain ⟨rfl, hrest⟩ := intercalate_append_inj rfl rfl (by decide) hstart hl
        (List.tail_eq_of_cons_eq h)
      exact ⟨rfl, hrest⟩
    | _ => exact absurd (lead_eq h) (by simp [lead])

theorem readable_items : (l : List Json) → ∀ v ∈ l, Readable render v
  | [], _, hv => nomatch hv
  | w :: l, v, hv => by
    rcases List.mem_cons.mp hv with hvw | hv
    · rw [hvw]
      exact readable_render w
    · exact readable_items l v hv

theorem readable_members : (l : List (String × Json)) → ∀ e ∈ l, Readable renderMember e
  | [], _, he => nomatch he
  | (name, v) :: l, e, he => by
    rcases List.mem_cons.mp he with hev | he
    · rw [hev]
      intro f r s hr hs h
      obtain ⟨name', w⟩ := f
      rw [renderMember, renderMember, List.append_assoc, List.append_assoc] at h
      obtain ⟨rfl, hrest⟩ := quote_append_inj h
      obtain ⟨rfl, hend⟩ := readable_render v hr hs (List.tail_eq_of_cons_eq hrest)
      exact ⟨rfl, hend⟩
    · exact readable_members l e he
end

end Turnstile.Json

import Turnstile.Proofs.Regex.Match
import Turnstile.Regex.Parser

/-! Expressions without groups and alternatives are sequences: what reading makes of some common parts, and
what these match. -/
namespace Turnstile.Regex

/-- One expression after the other. -/
def seq (l : List Regex) : Regex := l.foldr .cat .empty

section Spans
variable {t w : List Char} {i j : Nat}

theorem spans_seq_append {l m : List Regex} :
    Spans t (seq (l ++ m)) i j ↔ ∃ k, Spans t (seq l) i k ∧ Spans t (seq m) k j := by
  induction l generalizing i with
  | nil =>
    simp only [List.nil_append, seq, List.foldr_nil, spans_empty_iff]
    constructor
    · intro h
      exact ⟨i, ⟨rfl, Nat.le_trans h.le.1 h.le.2⟩, h⟩
    · rintro ⟨k, ⟨rfl, -⟩, h⟩
      exact h
  | cons r l ih =>
    simp only [seq, List.cons_append, List.foldr_cons, spans_cat_iff] at ih ⊢
    simp only [ih]
    constructor
    · rintro ⟨m, hr, k, hl, hm⟩
      exact ⟨k, ⟨m, hr, hl⟩, hm⟩
    · rintro ⟨k, ⟨m, hr, hl⟩, hm⟩
      exact ⟨m, hr, k, hl, hm⟩

theorem Spans.append {l m : List Regex} {k : Nat} (hl : Spans t (seq l) i k)
    (hm : Spans t (seq m) k j) : Spans t (seq (l ++ m)) i j := spans_seq_append.mpr ⟨k, hl, hm⟩

theorem ordered_seq {l : List Regex} (h : ∀ r ∈ l, r.Ordered) : (seq l).Ordered := by
  induction l with
  | nil => trivial
  | cons r l ih => exact ⟨h r List.mem_cons_self, ih fun q hq => h q (List.mem_cons_of_mem r hq)⟩

theorem spans_seq_singleton {r : Regex} : Spans t (seq [r]) i j ↔ Spans t r i j := by
  simp only [seq, List.foldr_cons, List.foldr_nil, spans_cat_iff, spans_empty_iff]
  constructor
  · rintro ⟨k, h, rfl, -⟩
    exact h
  · intro h
    exact ⟨j, h, rfl, h.le.2⟩

theorem spans_textStart_iff : Spans t (.assert .textStart) i j ↔ i = j ∧ i = 0 := by
  rw [spans_assert_iff]
  refine and_congr_right fun _ => ?_
  constructor
  · rintro ⟨hi, hnone⟩
    by_contra hpos
    rw [if_neg hpos, Assertion.holds, List.getElem?_eq_getElem (by omega)] at hnone
    cases hnone
  · rintro rfl
    exact ⟨Nat.zero_le _, rfl⟩

theorem spans_textEnd_iff : Spans t (.assert .textEnd) i j ↔ i = j ∧ i = t.length := by
  rw [spans_assert_iff]
  refine and_congr_right fun _ => ?_
  rw [Assertion.holds, Option.isNone_iff_eq_none, List.getElem?_eq_none_iff, Nat.le_antisymm_iff]

theorem mem_single {c d : Char} : (CharClass.single c).mem d = true ↔ d = c := by
  rw [CharClass.single, CharClass.mem, Bool.and_eq_true, decide_eq_true_iff, decide_eq_true_iff]
  constructor
  · rintro ⟨hc, hd⟩
    exact Char.le_antisymm hd hc
  · rintro rfl
    exact ⟨Char.le_refl d, Char.le_refl d⟩

/-- The characters of a word, one by one. -/
def wordParts (w : List Char) : List Regex := w.map fun c => .chars (.single c)

private theorem cons_prefix_drop_iff {c : Char} :
    c :: w <+: t.drop i ↔ t[i]? = some c ∧ w <+: t.drop (i + 1) := by
  rw [List.cons_prefix_iff]
  constructor
  · rintro ⟨rest, hdrop, hw⟩
    have hfirst : t[i]? = some c := by
      have := congrArg (·[0]?) hdrop
      simpa using this
    have hrest : t.drop (i + 1) = rest := by rw [← List.tail_drop, hdrop, List.tail_cons]
    exact ⟨hfirst, hrest.symm ▸ hw⟩
  · rintro ⟨hc, hw⟩
    obtain ⟨hi, rfl⟩ := List.getElem?_eq_some_iff.mp hc
    exact ⟨t.drop (i + 1), List.drop_eq_getElem_cons hi, hw⟩

/-- A word matches where it stands. -/
theorem spans_word_iff : Spans t (seq (wordParts w)) i j ↔
    i ≤ t.length ∧ j = i + w.length ∧ w <+: t.drop i := by
  induction w generalizing i with
  | nil =>
    simp only [wordParts, List.map_nil, seq, List.foldr_nil, spans_empty_iff, List.length_nil,
      Nat.add_zero, List.nil_prefix, and_true]
    rw [and_comm, eq_comm (a := i)]
  | cons c w ih =>
    have hcons : seq (wordParts (c :: w)) = .cat (.chars (.single c)) (seq (wordParts w)) := rfl
    simp only [hcons, spans_cat_iff, spans_chars_iff, mem_single, exists_eq_right, ih,
      cons_prefix_drop_iff, List.length_cons]
    constructor
    · rintro ⟨m, ⟨rfl, hc⟩, hm, rfl, hw⟩
      exact ⟨Nat.le_of_succ_le hm, by omega, hc, hw⟩
    · rintro ⟨-, rfl, hc, hw⟩
      obtain ⟨hi, -⟩ := List.getElem?_eq_some_iff.mp hc
      exact ⟨i + 1, ⟨rfl, hc⟩, hi, by omega, hw⟩

end Spans

/-- Any characters of a line. -/
def anything : Regex := .times (.chars (dot {})) 0 none

/-- It may be none. -/
theorem spans_anything (h : i ≤ t.length) : Spans t anything i i := .done h

section Reading
variable {l m : List Char} {parts others : List Regex}

/-- A reading outside of all groups. -/
def Reading.top (items : List Item) : Reading := { group := { flags := {}, items } }

/-- Wherever the text stands, unless a question mark follows, it is read as some parts, which are not nested. -/
def Reads (l : List Char) (parts : List Regex) : Prop :=
  ∀ (n : Nat) (items : List Item) (r : List Char), r.head? ≠ some '?' → ∃ read : List Item,
    run (l.length + n) (.top items) (l ++ r) = run n (.top (read ++ items)) r ∧
      read.reverse.map (·.regex) = parts ∧ ∀ i ∈ read, i.height ≤ 1

theorem reads_nil : Reads [] [] := fun n _ _ _ =>
  ⟨[], by rw [List.length_nil, Nat.zero_add]; rfl, rfl, fun _ h => absurd h List.not_mem_nil⟩

theorem Reads.append (h : Reads l parts) (hm : Reads m others) (hhead : m.head? ≠ some '?') :
    Reads (l ++ m) (parts ++ others) := by
  intro n items r hr
  have hmr : (m ++ r).head? ≠ some '?' := by
    cases m with
    | nil => exact hr
    | cons c m => exact hhead
  obtain ⟨first, hfirst, rfl, hflat⟩ := h (m.length + n) items (m ++ r) hmr
  obtain ⟨second, hsecond, rfl, hflat'⟩ := hm n (first ++ items) r hr
  refine ⟨second ++ first, ?_, by rw [List.reverse_append, List.map_append],
    List.forall_mem_append.mpr ⟨hflat', hflat⟩⟩
  rw [List.length_append, Nat.add_assoc, List.append_assoc, hfirst, hsecond, List.append_assoc]

theorem reads_caret : Reads ['^'] [.assert .textStart] := fun n _ r _ =>
  ⟨[{ regex := .assert .textStart }], by rw [List.length_singleton, Nat.add_comm]; rfl, rfl,
    List.forall_mem_singleton.mpr (Nat.zero_le 1)⟩

theorem reads_dollar : Reads ['$'] [.assert .textEnd] := fun n _ r _ =>
  ⟨[{ regex := .assert .textEnd }], by rw [List.length_singleton, Nat.add_comm]; rfl, rfl,
    List.forall_mem_singleton.mpr (Nat.zero_le 1)⟩

theorem reads_anything : Reads ['.', '*'] [anything] := by
  intro n items r hr
  have hskip : skipLazy {} r = r := by
    rw [skipLazy, skipBlank, if_neg Bool.false_ne_true]
    split
    · exact absurd rfl hr
    · rfl
  have hrun : run (n + 2) (.top items) ('.' :: '*' :: r) =
      run n (.top ({ regex := anything, height := 1 } :: items)) (skipLazy {} r) := rfl
  refine ⟨[{ regex := anything, height := 1 }], ?_, rfl, List.forall_mem_singleton.mpr (Nat.le_refl 1)⟩
  rw [Nat.add_comm]
  exact hrun.trans (by rw [hskip]; rfl)

theorem reads_plain {c : Char} (hc : isMeta c = false) : Reads [c] [.chars (.single c)] := by
  intro n items r _
  have hstep : step (.top items) c r = some (.top ({ regex := .chars (.single c) } :: items), r) := by
    unfold step
    split
    all_goals try exact absurd hc (by decide)
    rfl
  refine ⟨[{ regex := .chars (.single c) }], ?_, rfl, List.forall_mem_singleton.mpr (Nat.zero_le 1)⟩
  rw [List.length_singleton, Nat.add_comm, List.singleton_append, run, hstep]
  rfl

theorem reads_word {w : List Char} (h : ∀ c ∈ w, isMeta c = false) : Reads w (wordParts w) := by
  induction w with
  | nil => exact reads_nil
  | cons c w ih =>
    have hw : ∀ d ∈ w, isMeta d = false := fun d hd => h d (List.mem_cons_of_mem c hd)
    refine (reads_plain (h c List.mem_cons_self)).append (ih hw) fun hhead => ?_
    exact absurd (hw '?' (List.mem_of_mem_head? hhead)) (by decide)

private theorem heightOf_le {items : List Item} {n : Nat} (h : ∀ i ∈ items, i.height ≤ n) : heightOf items ≤ n := by
  have hfold : ∀ m ≤ n, items.foldl (fun n i => max n i.height) m ≤ n := by
    induction items with
    | nil => exact fun m hm => hm
    | cons i items ih =>
      obtain ⟨hi, hitems⟩ := List.forall_mem_cons.mp h
      exact fun m hm => ih hitems _ (Nat.max_le.mpr ⟨hm, hi⟩)
  exact hfold 0 (Nat.zero_le n)

private theorem sequence_eq_seq {items : List Item} (h : 2 ≤ items.length) :
    sequence items = { regex := seq (items.reverse.map (·.regex)), height := heightOf items + 1 } := by
  have hsequence : sequence items =
      { regex := items.foldl (fun r i => .cat i.regex r) .empty, height := heightOf items + 1 } := by
    match items with
    | _ :: _ :: _ => rfl
  rw [hsequence, seq, List.map_reverse, List.foldr_reverse, List.foldl_map]

/-- An expression that is read as some parts is their sequence, unless it takes too much room. -/
theorem parse?_of_reads {e : String} (hreads : Reads e.toList parts) (hparts : 2 ≤ parts.length) :
    parse? e = if (seq parts).room ≤ roomLimit then some (seq parts) else none := by
  obtain ⟨read, hrun, rfl, hflat⟩ := hreads 0 [] [] (by decide)
  rw [List.length_map, List.length_reverse] at hparts
  rw [List.append_nil, List.append_nil] at hrun
  have houter : (Reading.top read).outer.isEmpty = true := rfl
  have hclose : (Reading.top read).group.close = sequence read := rfl
  have hheight : heightOf read + 1 ≤ nestingLimit := Nat.le_trans (Nat.succ_le_succ (heightOf_le hflat)) (by decide)
  change (run e.toList.length (.top []) e.toList).bind _ = _
  rw [← Nat.add_zero e.toList.length, hrun, run, Option.bind_some]
  dsimp only
  rw [if_pos houter, hclose, sequence_eq_seq hparts, decide_eq_true hheight, Bool.true_and]
  simp only [decide_eq_true_eq]

theorem parse?_eq_seq {e : String} {q : Regex} (hreads : Reads e.toList parts)
    (hparts : 2 ≤ parts.length) (h : parse? e = some q) : q = seq parts := by
  rw [parse?_of_reads hreads hparts] at h
  split at h
  · exact (Option.some.inj h).symm
  · cases h

end Reading
end Turnstile.Regex

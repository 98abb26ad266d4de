import Mathlib.Data.List.TakeDrop
import Mathlib.Data.List.TakeWhile
import Turnstile.Proofs.Regex.Sequence
import Turnstile.Proofs.Resource.Index

/-! Simple expressions as the regular expressions that they are. Their shape decides where a resource is
looked up; that hides no match exactly if the end of the text that the shape fixes is anchored. -/
namespace Turnstile
open Regex

namespace ResourcePattern
variable {e : String} {w : List Char}

/-- A caret may stand in front of a simple shape, and a dollar behind it. -/
def caretText (caret : Bool) : List Char := if caret then ['^'] else []

def dollarText (dollar : Bool) : List Char := if dollar then ['$'] else []

def IsWord (w : List Char) : Prop := w ≠ [] ∧ ∀ c ∈ w, isLiteral c = true

theorem exists_caret (l : List Char) : ∃ caret, l = caretText caret ++ dropCaret l := by
  cases l with
  | nil => exact ⟨false, rfl⟩
  | cons c r =>
    by_cases hc : c = '^'
    · subst hc
      exact ⟨true, rfl⟩
    · refine ⟨false, ?_⟩
      rw [dropCaret]
      · rfl
      · rintro _ h
        exact hc (List.cons.inj h).1

theorem span_word {l word rest : List Char} (h : l.span isLiteral = (word, rest)) :
    l = word ++ rest ∧ ∀ c ∈ word, isLiteral c = true := by
  rw [List.span_eq_takeWhile_dropWhile] at h
  obtain ⟨rfl, rfl⟩ := Prod.mk.inj h
  exact ⟨List.takeWhile_append_dropWhile.symm, fun c hc => List.mem_takeWhile_imp hc⟩

theorem exists_dollar {rest text : List Char}
    (h : (decide (rest = text) || decide (rest = text ++ ['$'])) = true) :
    ∃ dollar, rest = text ++ dollarText dollar := by
  rcases Bool.or_eq_true_iff.mp h with h | h
  · exact ⟨false, (of_decide_eq_true h).trans (List.append_nil text).symm⟩
  · exact ⟨true, of_decide_eq_true h⟩

/-- The text of an expression that is looked up by its start. -/
theorem exists_text_of_startsWith (h : classify e = .startsWith w) : ∃ caret dollar, IsWord w ∧
    e.toList = caretText caret ++ (w ++ (anything ++ dollarText dollar)) := by
  obtain ⟨caret, hcaret⟩ := exists_caret e.toList
  rw [classify] at h
  generalize dropCaret e.toList = body at hcaret h
  rcases hspan : body.span isLiteral with ⟨word, rest⟩
  obtain ⟨hbody, hword⟩ := span_word hspan
  simp only [hspan] at h
  split at h
  · split at h
    · split at h
      · split at h <;> cases h
      · cases h
    · cases h
  · next hempty =>
    split at h
    · next hrest =>
      obtain rfl := startsWith.inj h
      obtain ⟨dollar, hdollar⟩ := exists_dollar hrest
      refine ⟨caret, dollar, ⟨fun hnil => hempty (List.isEmpty_iff.mpr hnil), hword⟩, ?_⟩
      rw [hcaret, hbody, hdollar]
    · cases h

/-- The text of an expression that is looked up by its end. -/
theorem exists_text_of_endsWith (h : classify e = .endsWith w) : ∃ caret dollar, IsWord w ∧
    e.toList = caretText caret ++ (anything ++ (w ++ dollarText dollar)) := by
  obtain ⟨caret, hcaret⟩ := exists_caret e.toList
  rw [classify] at h
  generalize dropCaret e.toList = body at hcaret h
  simp only at h
  split at h
  · split at h
    · next r _ =>
      rcases hspan : r.span isLiteral with ⟨word, rest⟩
      obtain ⟨hr, hword⟩ := span_word hspan
      simp only [hspan] at h
      split at h
      · next hrest =>
        split at h
        · cases h
        · next hempty =>
          obtain rfl := endsWith.inj h
          obtain ⟨dollar, hdollar⟩ := exists_dollar hrest
          refine ⟨caret, dollar, ⟨fun hnil => hempty (List.isEmpty_iff.mpr hnil), hword⟩, ?_⟩
          rw [hcaret, hr, hdollar]
          rfl
      · cases h
    · cases h
  · split at h <;> cases h

section Parts
variable {t : List Char} {i j : Nat}

def caretParts (caret : Bool) : List Regex := if caret then [.assert .textStart] else []

def dollarParts (dollar : Bool) : List Regex := if dollar then [.assert .textEnd] else []

theorem reads_caretText (caret : Bool) : Reads (caretText caret) (caretParts caret) := by
  cases caret with
  | false => exact reads_nil
  | true => exact reads_caret

theorem reads_dollarText (dollar : Bool) : Reads (dollarText dollar) (dollarParts dollar) := by
  cases dollar with
  | false => exact reads_nil
  | true => exact reads_dollar

theorem spans_caretParts_iff {caret : Bool} : Spans t (seq (caretParts caret)) i j ↔
    i = j ∧ i ≤ t.length ∧ (caret = true → i = 0) := by
  cases caret with
  | false => simp [caretParts, seq, spans_empty_iff]
  | true =>
    simp only [caretParts, if_true, spans_seq_singleton, spans_textStart_iff, forall_const]
    exact and_congr_right fun _ => ⟨fun h => ⟨h ▸ Nat.zero_le _, h⟩, And.right⟩

theorem spans_dollarParts_iff {dollar : Bool} : Spans t (seq (dollarParts dollar)) i j ↔
    i = j ∧ i ≤ t.length ∧ (dollar = true → i = t.length) := by
  cases dollar with
  | false => simp [dollarParts, seq, spans_empty_iff]
  | true =>
    simp only [dollarParts, if_true, spans_seq_singleton, spans_textEnd_iff, forall_const]
    exact and_congr_right fun _ => ⟨fun h => ⟨Nat.le_of_eq h, h⟩, And.right⟩

end Parts

theorem isMeta_of_isLiteral {c : Char} (h : isLiteral c = true) : isMeta c = false := by
  rw [Bool.eq_false_iff]
  intro hmeta
  have hall : ['\\', '.', '+', '*', '?', '(', ')', '|', '[', ']', '\x7b', '\x7d', '^', '$', '#', '&', '-',
      '~'].all (fun c => !isLiteral c) = true := by decide
  have hc := List.all_eq_true.mp hall c (of_decide_eq_true hmeta)
  rw [h] at hc
  cases hc

theorem IsWord.head_ne (hw : IsWord w) {c : Char} (hc : isLiteral c = false) (l : List Char) :
    (w ++ l).head? ≠ some c := by
  obtain ⟨hne, hliteral⟩ := hw
  cases w with
  | nil => exact absurd rfl hne
  | cons d w =>
    intro h
    obtain rfl := Option.some.inj h
    rw [hliteral d List.mem_cons_self] at hc
    cases hc

theorem IsWord.getLast_ne (hw : IsWord w) {c : Char} (hc : isLiteral c = false)
    (l : List Char) : (l ++ w).getLast? ≠ some c := by
  obtain ⟨hne, hliteral⟩ := hw
  rw [List.getLast?_append, List.getLast?_eq_some_getLast hne, Option.some_or]
  intro h
  obtain rfl := Option.some.inj h
  rw [hliteral _ (List.getLast_mem hne)] at hc
  cases hc

private theorem head?_dollarText (dollar : Bool) : (dollarText dollar).head? ≠ some '?' := by
  cases dollar <;> decide

theorem head?_anything (l : List Char) : (anything ++ l).head? ≠ some '?' := by
  change some '.' ≠ some '?'
  decide

section Start
variable {t : List Char} {caret dollar : Bool}

/-- The parts of an expression that fixes the start of a resource. -/
def startParts (caret dollar : Bool) (w : List Char) : List Regex :=
  caretParts caret ++ (wordParts w ++ ([Regex.anything] ++ dollarParts dollar))

theorem reads_start (hw : IsWord w) (caret dollar : Bool) :
    Reads (caretText caret ++ (w ++ (anything ++ dollarText dollar))) (startParts caret dollar w) := by
  have hword := reads_word fun c hc => isMeta_of_isLiteral (hw.2 c hc)
  have htail := reads_anything.append (reads_dollarText dollar) (head?_dollarText dollar)
  exact (reads_caretText caret).append (hword.append htail (head?_anything _)) (hw.head_ne (by decide) _)

/-- A caret ties the word to the start. -/
theorem prefix_of_occurs (h : Occurs (seq (startParts true dollar w)) t) : w <+: t := by
  obtain ⟨i, j, h⟩ := h
  obtain ⟨m, hcaret, hrest⟩ := spans_seq_append.mp h
  obtain ⟨k, hword, -⟩ := spans_seq_append.mp hrest
  obtain ⟨rfl, -, hzero⟩ := spans_caretParts_iff.mp hcaret
  obtain rfl := hzero rfl
  exact (spans_word_iff.mp hword).2.2

/-- Without a caret the word may stand further on. -/
theorem occurs_start (before w : List Char) (dollar : Bool) :
    Occurs (seq (startParts false dollar w)) (before ++ w) := by
  let t := before ++ w
  have hlength : t.length = before.length + w.length := List.length_append
  have hi : before.length ≤ t.length := hlength ▸ Nat.le_add_right ..
  have hdrop : t.drop before.length = w := List.drop_left
  have hcaret : Spans t (seq (caretParts false)) before.length before.length :=
    spans_caretParts_iff.mpr ⟨rfl, hi, fun h => nomatch h⟩
  have hword : Spans t (seq (wordParts w)) before.length t.length :=
    spans_word_iff.mpr ⟨hi, hlength, hdrop.symm ▸ List.prefix_rfl⟩
  have hany : Spans t (seq [Regex.anything]) t.length t.length :=
    spans_seq_singleton.mpr (spans_anything (Nat.le_refl _))
  have hdollar : Spans t (seq (dollarParts dollar)) t.length t.length :=
    spans_dollarParts_iff.mpr ⟨rfl, Nat.le_refl _, fun _ => rfl⟩
  exact ⟨_, _, hcaret.append (hword.append (hany.append hdollar))⟩

end Start

section End
variable {t : List Char} {caret dollar : Bool}

/-- The parts of an expression that fixes the end of a resource. -/
def endParts (caret dollar : Bool) (w : List Char) : List Regex :=
  caretParts caret ++ ([Regex.anything] ++ (wordParts w ++ dollarParts dollar))

theorem reads_end (hw : IsWord w) (caret dollar : Bool) :
    Reads (caretText caret ++ (anything ++ (w ++ dollarText dollar))) (endParts caret dollar w) := by
  have hword := reads_word fun c hc => isMeta_of_isLiteral (hw.2 c hc)
  have htail := hword.append (reads_dollarText dollar) (head?_dollarText dollar)
  exact (reads_caretText caret).append (reads_anything.append htail (hw.head_ne (by decide) _))
    (head?_anything _)

/-- A dollar ties the word to the end. -/
theorem suffix_of_occurs (h : Occurs (seq (endParts caret true w)) t) : w <:+ t := by
  obtain ⟨i, j, h⟩ := h
  obtain ⟨_, -, hrest⟩ := spans_seq_append.mp h
  obtain ⟨m, -, hrest⟩ := spans_seq_append.mp hrest
  obtain ⟨k, hword, hdollar⟩ := spans_seq_append.mp hrest
  obtain ⟨rfl, -, hlast⟩ := spans_dollarParts_iff.mp hdollar
  obtain ⟨hm, rfl, hbegins⟩ := spans_word_iff.mp hword
  have hlength : w.length = (t.drop m).length := by
    rw [List.length_drop, ← hlast rfl, Nat.add_sub_cancel_left]
  rw [hbegins.eq_of_length hlength]
  exact List.drop_suffix m t

/-- Without a dollar the resource may go on after the word. -/
theorem occurs_end (w after : List Char) (caret : Bool) :
    Occurs (seq (endParts caret false w)) (w ++ after) := by
  let t := w ++ after
  have hj : w.length ≤ t.length := (List.prefix_append w after).length_le
  have hcaret : Spans t (seq (caretParts caret)) 0 0 :=
    spans_caretParts_iff.mpr ⟨rfl, Nat.zero_le _, fun _ => rfl⟩
  have hany : Spans t (seq [Regex.anything]) 0 0 :=
    spans_seq_singleton.mpr (spans_anything (Nat.zero_le _))
  have hword : Spans t (seq (wordParts w)) 0 w.length :=
    spans_word_iff.mpr ⟨Nat.zero_le _, (Nat.zero_add _).symm, List.prefix_append w after⟩
  have hdollar : Spans t (seq (dollarParts false)) w.length w.length :=
    spans_dollarParts_iff.mpr ⟨rfl, hj, fun h => nomatch h⟩
  exact ⟨_, _, hcaret.append (hany.append (hword.append hdollar))⟩

end End

section Anchored
variable {caret dollar : Bool} {resource : String}

/-- An expression is anchored at the end of a resource that its simple shape fixes. -/
def Anchored (expression : String) : ResourcePattern → Prop
  | .startsWith _ => expression.toList.head? = some '^'
  | .endsWith _ => expression.toList.getLast? = some '$'
  | .everything | .generic => True

instance (expression : String) : (shape : ResourcePattern) → Decidable (shape.Anchored expression)
  | .startsWith _ | .endsWith _ => inferInstanceAs (Decidable (_ = _))
  | .everything | .generic => inferInstanceAs (Decidable True)

theorem expressionMatches_iff_occurs {parts : List Regex} (hreads : Reads e.toList parts)
    (hparts : 2 ≤ parts.length) (hordered : ∀ r ∈ parts, r.Ordered) :
    expressionMatches e resource = true ↔
      Regex.parse? e ≠ none ∧ Occurs (seq parts) resource.toList := by
  rw [expressionMatches, expressionMatches?]
  cases hparse : Regex.parse? e with
  | none => simp
  | some q =>
    obtain rfl := parse?_eq_seq hreads hparts hparse
    simp [isMatch, matchesText_iff (ordered_seq hordered)]

theorem ordered_parts (caret dollar : Bool) (w : List Char) :
    (∀ r ∈ startParts caret dollar w, r.Ordered) ∧ ∀ r ∈ endParts caret dollar w, r.Ordered := by
  have hcaret : ∀ r ∈ caretParts caret, r.Ordered := by cases caret <;> simp [caretParts, Ordered]
  have hdollar : ∀ r ∈ dollarParts dollar, r.Ordered := by cases dollar <;> simp [dollarParts, Ordered]
  have hword : ∀ r ∈ wordParts w, r.Ordered := by simp [wordParts, Ordered]
  have hany : ∀ r ∈ [Regex.anything], r.Ordered := by simp [Regex.anything, Ordered]
  simp only [startParts, endParts, List.forall_mem_append]
  exact ⟨⟨hcaret, hword, hany, hdollar⟩, hcaret, hany, hword, hdollar⟩

theorem two_le_length_parts (hw : IsWord w) (caret dollar : Bool) :
    2 ≤ (startParts caret dollar w).length ∧ 2 ≤ (endParts caret dollar w).length := by
  have hpos := List.length_pos_iff.mpr hw.1
  simp only [startParts, endParts, wordParts, List.length_append, List.length_map, List.length_singleton]
  omega

/-- A look-up that finds the texts where the parts of an expression occur, if something holds, and misses one
of them otherwise, hides no match exactly if that holds or the expression is invalid. -/
private theorem forall_matches_iff {parts : List Regex} {found : List Char → Prop} {anchored : Prop}
    (hreads : Reads e.toList parts) (hparts : 2 ≤ parts.length) (hordered : ∀ r ∈ parts, r.Ordered)
    (hall : anchored → ∀ t, Occurs (seq parts) t → found t)
    (hopen : ¬ anchored → ∃ t, Occurs (seq parts) t ∧ ¬ found t) :
    (∀ resource, expressionMatches e resource = true → found resource.toList) ↔
      Regex.parse? e = none ∨ anchored := by
  have hmatches (resource : String) : expressionMatches e resource = true ↔
      Regex.parse? e ≠ none ∧ Occurs (seq parts) resource.toList :=
    expressionMatches_iff_occurs hreads hparts hordered
  constructor
  · intro h
    by_contra hneither
    obtain ⟨hvalid, hloose⟩ := not_or.mp hneither
    obtain ⟨t, ht, hmissed⟩ := hopen hloose
    rw [← String.toList_ofList (l := t)] at ht hmissed
    exact hmissed (h _ ((hmatches _).mpr ⟨hvalid, ht⟩))
  · rintro (hnone | hanchored) resource hm
    · exact absurd hnone ((hmatches resource).mp hm).1
    · exact hall hanchored _ ((hmatches resource).mp hm).2

private theorem starts_iff (h : classify e = .startsWith w) :
    (∀ resource, expressionMatches e resource = true → w <+: resource.toList) ↔
      Regex.parse? e = none ∨ e.toList.head? = some '^' := by
  obtain ⟨caret, dollar, hw, he⟩ := exists_text_of_startsWith h
  have hreads := reads_start hw caret dollar
  rw [← he] at hreads
  refine forall_matches_iff hreads (two_le_length_parts hw caret dollar).1
    (ordered_parts caret dollar w).1 ?_ ?_
  · intro hhead
    cases caret with
    | false =>
      rw [he] at hhead
      exact absurd hhead (hw.head_ne (by decide) _)
    | true => exact fun t ht => prefix_of_occurs ht
  · intro hhead
    cases caret with
    | false =>
      refine ⟨'-' :: w, occurs_start ['-'] w dollar, ?_⟩
      rintro ⟨r, hr⟩
      exact hw.head_ne (by decide) r (congrArg List.head? hr)
    | true =>
      rw [he] at hhead
      exact absurd rfl hhead

private theorem ends_iff (h : classify e = .endsWith w) :
    (∀ resource, expressionMatches e resource = true → w <:+ resource.toList) ↔
      Regex.parse? e = none ∨ e.toList.getLast? = some '$' := by
  obtain ⟨caret, dollar, hw, he⟩ := exists_text_of_endsWith h
  have hreads := reads_end hw caret dollar
  rw [← he] at hreads
  rw [← List.append_assoc, ← List.append_assoc] at he
  refine forall_matches_iff hreads (two_le_length_parts hw caret dollar).2
    (ordered_parts caret dollar w).2 ?_ ?_
  · intro hlast
    cases dollar with
    | false =>
      rw [he, dollarText, if_neg Bool.false_ne_true, List.append_nil] at hlast
      exact absurd hlast (hw.getLast_ne (by decide) _)
    | true => exact fun t ht => suffix_of_occurs ht
  · intro hlast
    cases dollar with
    | false =>
      refine ⟨w ++ ['-'], occurs_end w ['-'] caret, ?_⟩
      rintro ⟨r, hr⟩
      exact hw.getLast_ne (by decide) r (hr ▸ List.getLast?_concat)
    | true =>
      rw [he] at hlast
      exact absurd List.getLast?_concat hlast

/-- The bucket of an expression covers whatever the expression matches, exactly if the expression is
anchored or matches nothing at all for being invalid. -/
theorem covers_of_matches_iff (e : String) :
    (∀ resource, expressionMatches e resource = true → (Coverage.expression e).bucket.Covers resource) ↔
      Regex.parse? e = none ∨ (classify e).Anchored e := by
  rw [Coverage.bucket]
  cases h : classify e with
  | startsWith w => exact starts_iff h
  | endsWith w => exact ends_iff h
  | everything => exact iff_of_true (fun _ _ => trivial) (.inr trivial)
  | generic => exact iff_of_true (fun _ h => h) (.inr trivial)

end Anchored

end ResourcePattern
end Turnstile

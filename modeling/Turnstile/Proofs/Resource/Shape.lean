import Mathlib.Data.List.Infix
import Turnstile.Proofs.Regex.Language
import Turnstile.Proofs.Resource.Expression

/-! Which expressions are simple, and what their words are. Three expressions over expressions tell the same, with
what is stripped from their matches. -/
namespace Turnstile
open Regex

namespace ResourcePattern
variable {e : String} {w l : List Char}

/-- A word and then anything. -/
def StartText (w text : List Char) : Prop :=
  IsWord w ∧ ∃ caret dollar, text = caretText caret ++ (w ++ (anything ++ dollarText dollar))

/-- Anything and then a word. -/
def EndText (w text : List Char) : Prop :=
  IsWord w ∧ ∃ caret dollar, text = caretText caret ++ (anything ++ (w ++ dollarText dollar))

/-- Just anything. -/
def WholeText (text : List Char) : Prop :=
  ∃ caret dollar, text = caretText caret ++ (anything ++ dollarText dollar)

section Grammar

private theorem dropCaret_append {caret : Bool} (h : l.head? ≠ some '^') : dropCaret (caretText caret ++ l) = l := by
  cases caret with
  | true => rfl
  | false =>
    cases l with
    | nil => rfl
    | cons c l =>
      have hc : c ≠ '^' := fun hc => h (congrArg some hc)
      rw [caretText, if_neg Bool.false_ne_true, List.nil_append, dropCaret]
      rintro _ hl
      exact hc (List.cons.inj hl).1

private theorem span_append {rest : List Char} (hw : ∀ c ∈ w, isLiteral c = true)
    (hrest : ∀ c, rest.head? = some c → isLiteral c = false) : (w ++ rest).span isLiteral = (w, rest) := by
  have htake : rest.takeWhile isLiteral = [] := by
    cases rest with
    | nil => rfl
    | cons c rest => rw [List.takeWhile_cons, hrest c rfl, if_neg Bool.false_ne_true]
  have hdrop : rest.dropWhile isLiteral = rest := by
    cases rest with
    | nil => rfl
    | cons c rest => rw [List.dropWhile_cons, hrest c rfl, if_neg Bool.false_ne_true]
  rw [List.span_eq_takeWhile_dropWhile, List.takeWhile_append_of_pos hw, List.dropWhile_append_of_pos hw, htake, hdrop,
    List.append_nil]

private theorem span_dollarText (hw : ∀ c ∈ w, isLiteral c = true) (dollar : Bool) :
    (w ++ dollarText dollar).span isLiteral = (w, dollarText dollar) := by
  refine span_append hw fun c hc => ?_
  cases dollar with
  | false => cases hc
  | true =>
    obtain rfl := Option.some.inj hc
    decide

theorem classify_of_startText (h : StartText w e.toList) : classify e = .startsWith w := by
  obtain ⟨hw, caret, dollar, he⟩ := h
  have hbody : dropCaret e.toList = w ++ (anything ++ dollarText dollar) :=
    he ▸ dropCaret_append (hw.head_ne (by decide) _)
  have hspan : (w ++ (anything ++ dollarText dollar)).span isLiteral = (w, anything ++ dollarText dollar) := by
    refine span_append hw.2 fun c hc => ?_
    obtain rfl := Option.some.inj hc
    decide
  have hne : ¬ w.isEmpty = true := fun hnil => hw.1 (List.isEmpty_iff.mp hnil)
  simp only [classify, hbody, hspan, hne]
  cases dollar <;> rfl

theorem classify_of_endText (h : EndText w e.toList) : classify e = .endsWith w := by
  obtain ⟨hw, caret, dollar, he⟩ := h
  have hbody : dropCaret e.toList = '.' :: '*' :: (w ++ dollarText dollar) :=
    he ▸ dropCaret_append fun hc => absurd (Option.some.inj hc) (by decide)
  have hnone : ('.' :: '*' :: (w ++ dollarText dollar)).span isLiteral = ([], '.' :: '*' :: (w ++ dollarText dollar)) :=
    span_append (w := []) (fun _ hc => absurd hc List.not_mem_nil) fun c hc => by
      obtain rfl := Option.some.inj hc
      decide
  have hne : ¬ w.isEmpty = true := fun hnil => hw.1 (List.isEmpty_iff.mp hnil)
  simp only [classify, hbody, hnone, span_dollarText hw.2, List.isEmpty_nil, if_true, hne]
  cases dollar <;> rfl

theorem classify_of_wholeText (h : WholeText e.toList) : classify e = .everything := by
  obtain ⟨caret, dollar, he⟩ := h
  rw [classify, he]
  cases caret <;> cases dollar <;> rfl

/-- An expression that matches everything in any case. -/
theorem wholeText_of_everything (h : classify e = .everything) : WholeText e.toList := by
  obtain ⟨caret, hcaret⟩ := exists_caret e.toList
  rw [classify] at h
  generalize dropCaret e.toList = body at hcaret h
  simp only at h
  split at h
  · split at h
    · next r _ =>
      rcases hspan : r.span isLiteral with ⟨word, rest⟩
      obtain ⟨hr, -⟩ := span_word hspan
      simp only [hspan] at h
      split at h
      · next hrest =>
        split at h
        · next hempty =>
          obtain ⟨dollar, hdollar⟩ := exists_dollar hrest
          refine ⟨caret, dollar, ?_⟩
          rw [hcaret, hr, hdollar, List.isEmpty_iff.mp hempty]
          rfl
        · cases h
      · cases h
    · cases h
  · split at h <;> cases h

theorem classify_startsWith_iff : classify e = .startsWith w ↔ StartText w e.toList := by
  refine ⟨fun h => ?_, classify_of_startText⟩
  obtain ⟨caret, dollar, hw, he⟩ := exists_text_of_startsWith h
  exact ⟨hw, caret, dollar, he⟩

theorem classify_endsWith_iff : classify e = .endsWith w ↔ EndText w e.toList := by
  refine ⟨fun h => ?_, classify_of_endText⟩
  obtain ⟨caret, dollar, hw, he⟩ := exists_text_of_endsWith h
  exact ⟨hw, caret, dollar, he⟩

theorem classify_everything_iff : classify e = .everything ↔ WholeText e.toList :=
  ⟨wholeText_of_everything, classify_of_wholeText⟩

/-- Whatever is not simple is generic. -/
theorem classify_generic_iff : classify e = .generic ↔
    (∀ w, ¬ StartText w e.toList) ∧ (∀ w, ¬ EndText w e.toList) ∧ ¬ WholeText e.toList := by
  simp only [← classify_startsWith_iff, ← classify_endsWith_iff, ← classify_everything_iff]
  cases classify e <;> simp

end Grammar

section Matching

/-- The simple shapes, as expressions over expressions. -/
def startShape : String := "^\\^?[0-9A-Za-z_/]+\\.\\*\\$?$"

def endShape : String := "^\\^?\\.\\*[0-9A-Za-z_/]+\\$?$"

def wholeShape : String := "^\\^?\\.\\*\\$?$"

def wordClass : CharClass := .ofRanges [('0', '9'), ('A', 'Z'), ('a', 'z'), ('_', '_'), ('/', '/')]

def maybe (c : Char) : Regex := .times (.chars (.single c)) 0 (some 1)

def wordRun : Regex := .times (.chars wordClass) 1 none

theorem isLiteral_iff {c : Char} : isLiteral c = true ↔
    ((('A' ≤ c ∧ c ≤ 'Z' ∨ 'a' ≤ c ∧ c ≤ 'z') ∨ '0' ≤ c ∧ c ≤ '9') ∨ c = '_') ∨ c = '/' := by
  have hbetween {low high : Char} : (decide (low ≤ c) && decide (c ≤ high)) = true ↔ low ≤ c ∧ c ≤ high := by
    rw [Bool.and_eq_true, decide_eq_true_iff, decide_eq_true_iff]
  have halphanum : c.isAlphanum = true ↔
      ('A' ≤ c ∧ c ≤ 'Z' ∨ 'a' ≤ c ∧ c ≤ 'z') ∨ '0' ≤ c ∧ c ≤ '9' := by
    change ((_ || _) || _) = true ↔ _
    rw [Bool.or_eq_true, Bool.or_eq_true]
    exact or_congr (or_congr decide_eq_true_iff hbetween) hbetween
  rw [isLiteral, Bool.or_eq_true, Bool.or_eq_true, halphanum, decide_eq_true_iff, decide_eq_true_iff]

theorem mem_wordClass (c : Char) : wordClass.mem c = isLiteral c := by
  have hone (d : Char) : (d ≤ c ∧ c ≤ d) ↔ c = d :=
    ⟨fun h => Char.le_antisymm h.2 h.1, fun h => h ▸ ⟨Char.le_refl c, Char.le_refl c⟩⟩
  rw [Bool.eq_iff_iff, isLiteral_iff]
  simp only [wordClass, CharClass.ofRanges, CharClass.unions, List.map_cons, List.map_nil, List.foldl_cons,
    List.foldl_nil,
    CharClass.mem, Bool.or_eq_true, Bool.and_eq_true, decide_eq_true_iff, hone, Bool.false_eq_true, false_or]
  exact or_congr_left (or_congr_left (or_assoc.trans or_comm))

theorem spells_wordRun : wordRun.Spells w ↔ IsWord w := by
  rw [wordRun, spells_times_chars, IsWord]
  simp only [mem_wordClass, Nat.succ_le_iff, List.length_pos_iff, reduceCtorEq, false_implies, implies_true, true_and]

theorem spells_maybe {c : Char} : (maybe c).Spells w ↔ ∃ there : Bool, w = if there then [c] else [] := by
  rw [maybe, spells_times_chars]
  constructor
  · rintro ⟨-, hlength, hall⟩
    match w, hlength 1 rfl with
    | [], _ => exact ⟨false, rfl⟩
    | [d], _ => exact ⟨true, congrArg (fun d => [d]) (mem_single.mp (hall d List.mem_cons_self))⟩
  · rintro ⟨there, rfl⟩
    cases there <;> simp [mem_single]

private theorem maybe_caret : (maybe '^').Spells w ↔ ∃ caret, w = caretText caret := spells_maybe

private theorem maybe_dollar : (maybe '$').Spells w ↔ ∃ dollar, w = dollarText dollar := spells_maybe

private theorem plain_maybe {c : Char} : (maybe c).Plain ∧ (maybe c).Ordered :=
  ⟨trivial, trivial, fun _ _ => Nat.zero_le _⟩

private theorem plain_wordRun : wordRun.Plain ∧ wordRun.Ordered := ⟨trivial, trivial, fun _ h => nomatch h⟩

private theorem plain_word : ∀ r ∈ wordParts w, r.Plain ∧ r.Ordered :=
  List.forall_mem_map.mpr fun _ _ => ⟨trivial, trivial⟩

/-- An expression that is tied to both ends matches what it spells. -/
private theorem matches_iff_spells {shape : String} {parts : List Regex}
    (hparse : Regex.parse? shape = some (seq ([.assert .textStart] ++ (parts ++ [.assert .textEnd]))))
    (hplain : ∀ r ∈ parts, r.Plain ∧ r.Ordered) : expressionMatches shape e = true ↔ (seq parts).Spells e.toList := by
  have hall : ∀ r ∈ [.assert .textStart] ++ (parts ++ [.assert .textEnd]), r.Ordered := by
    simp only [List.forall_mem_append, List.forall_mem_singleton]
    exact ⟨trivial, fun r hr => (hplain r hr).2, trivial⟩
  rw [expressionMatches, expressionMatches?, hparse, Option.map_some, Option.getD_some, isMatch,
    matchesText_iff (ordered_seq hall), occurs_whole_iff (plain_seq fun r hr => (hplain r hr).1)]

theorem startShape_matches_iff : expressionMatches startShape e = true ↔ ∃ w, StartText w e.toList := by
  let parts := [maybe '^'] ++ ([wordRun] ++ (wordParts anything ++ [maybe '$']))
  have hparse : Regex.parse? startShape = some (seq ([.assert .textStart] ++ (parts ++ [.assert .textEnd]))) := by
    decide +kernel
  have hplain : ∀ r ∈ parts, r.Plain ∧ r.Ordered := by
    simp only [parts, List.forall_mem_append, List.forall_mem_singleton]
    exact ⟨plain_maybe, plain_wordRun, plain_word, plain_maybe⟩
  rw [matches_iff_spells hparse hplain]
  simp only [parts, spells_seq_append, spells_seq_singleton, maybe_caret, maybe_dollar, spells_wordRun, spells_word]
  constructor
  · rintro ⟨_, _, he, ⟨caret, rfl⟩, w, _, rfl, hw, _, _, rfl, rfl, dollar, rfl⟩
    exact ⟨w, hw, caret, dollar, he⟩
  · rintro ⟨w, hw, caret, dollar, he⟩
    exact ⟨_, _, he, ⟨caret, rfl⟩, w, _, rfl, hw, _, _, rfl, rfl, dollar, rfl⟩

theorem endShape_matches_iff : expressionMatches endShape e = true ↔ ∃ w, EndText w e.toList := by
  let parts := [maybe '^'] ++ (wordParts anything ++ ([wordRun] ++ [maybe '$']))
  have hparse : Regex.parse? endShape = some (seq ([.assert .textStart] ++ (parts ++ [.assert .textEnd]))) := by
    decide +kernel
  have hplain : ∀ r ∈ parts, r.Plain ∧ r.Ordered := by
    simp only [parts, List.forall_mem_append, List.forall_mem_singleton]
    exact ⟨plain_maybe, plain_word, plain_wordRun, plain_maybe⟩
  rw [matches_iff_spells hparse hplain]
  simp only [parts, spells_seq_append, spells_seq_singleton, maybe_caret, maybe_dollar, spells_wordRun, spells_word]
  constructor
  · rintro ⟨_, _, he, ⟨caret, rfl⟩, _, _, rfl, rfl, w, _, rfl, hw, dollar, rfl⟩
    exact ⟨w, hw, caret, dollar, he⟩
  · rintro ⟨w, hw, caret, dollar, he⟩
    exact ⟨_, _, he, ⟨caret, rfl⟩, _, _, rfl, rfl, w, _, rfl, hw, dollar, rfl⟩

theorem wholeShape_matches_iff : expressionMatches wholeShape e = true ↔ WholeText e.toList := by
  let parts := [maybe '^'] ++ (wordParts anything ++ [maybe '$'])
  have hparse : Regex.parse? wholeShape = some (seq ([.assert .textStart] ++ (parts ++ [.assert .textEnd]))) := by
    decide +kernel
  have hplain : ∀ r ∈ parts, r.Plain ∧ r.Ordered := by
    simp only [parts, List.forall_mem_append, List.forall_mem_singleton]
    exact ⟨plain_maybe, plain_word, plain_maybe⟩
  rw [matches_iff_spells hparse hplain]
  simp only [parts, spells_seq_append, spells_seq_singleton, maybe_caret, maybe_dollar, spells_word]
  constructor
  · rintro ⟨_, _, he, ⟨caret, rfl⟩, _, _, rfl, rfl, dollar, rfl⟩
    exact ⟨caret, dollar, he⟩
  · rintro ⟨caret, dollar, he⟩
    exact ⟨_, _, he, ⟨caret, rfl⟩, _, _, rfl, rfl, dollar, rfl⟩

/-- What stands between a caret and the last two characters, a dollar aside. -/
def stripStart (text : List Char) : List Char :=
  let word := ((text.dropSuffix? ['.', '*', '$']).or (text.dropSuffix? ['.', '*'])).getD text
  (word.dropPrefix? ['^']).getD word

/-- What stands between the first two characters, a caret aside, and a dollar. -/
def stripEnd (text : List Char) : List Char :=
  let word := ((text.dropPrefix? ['^', '.', '*']).or (text.dropPrefix? ['.', '*'])).getD text
  (word.dropSuffix? ['$']).getD word

/-- Tells the shape by matching, and the word by stripping what stands around it. -/
def classifyByShape (expression : String) : ResourcePattern :=
  if expressionMatches startShape expression then startsWith (stripStart expression.toList)
  else if expressionMatches endShape expression then endsWith (stripEnd expression.toList)
  else if expressionMatches wholeShape expression then everything
  else generic

private theorem strip_end (l s : List Char) : (l ++ s).dropSuffix? s = some l :=
  List.dropSuffix?_eq_some_iff.mpr ⟨s, rfl, beq_self_eq_true s⟩

private theorem strip_start (s l : List Char) : (s ++ l).dropPrefix? s = some l :=
  List.dropPrefix?_append_of_beq l (beq_self_eq_true s)

/-- A text that ends otherwise has nothing to strip. -/
private theorem strip_end_none {s : List Char} (hs : s ≠ []) (h : l.getLast? ≠ s.getLast?) :
    l.dropSuffix? s = none := by
  rw [Option.eq_none_iff_forall_ne_some]
  intro p hp
  obtain ⟨s', rfl, hs'⟩ := List.dropSuffix?_eq_some_iff.mp hp
  obtain rfl := eq_of_beq hs'
  exact h (List.getLast?_append_of_ne_nil _ hs)

private theorem strip_start_none {s : List Char} (hs : s ≠ []) (h : l.head? ≠ s.head?) : l.dropPrefix? s = none := by
  rw [Option.eq_none_iff_forall_ne_some]
  intro p hp
  obtain ⟨s', rfl, hs'⟩ := List.dropPrefix?_eq_some_iff.mp hp
  obtain rfl := eq_of_beq hs'
  exact h (List.head?_append_of_ne_nil _ hs)

private theorem strip_caret (h : l.head? ≠ some '^') (caret : Bool) :
    ((caretText caret ++ l).dropPrefix? ['^']).getD (caretText caret ++ l) = l := by
  cases caret with
  | true =>
    rw [caretText, if_pos rfl, strip_start]
    rfl
  | false =>
    rw [caretText, if_neg Bool.false_ne_true, List.nil_append, strip_start_none (List.cons_ne_nil _ _) h]
    rfl

private theorem strip_dollar (h : l.getLast? ≠ some '$') (dollar : Bool) :
    ((l ++ dollarText dollar).dropSuffix? ['$']).getD (l ++ dollarText dollar) = l := by
  cases dollar with
  | true =>
    rw [dollarText, if_pos rfl, strip_end]
    rfl
  | false =>
    rw [dollarText, if_neg Bool.false_ne_true, List.append_nil, strip_end_none (List.cons_ne_nil _ _) h]
    rfl

/-- The shorter ending is tried where the longer one does not fit. -/
private theorem strip_anything_end (l : List Char) (dollar : Bool) :
    (((l ++ (anything ++ dollarText dollar)).dropSuffix? ['.', '*', '$']).or
      ((l ++ (anything ++ dollarText dollar)).dropSuffix? ['.', '*'])).getD
        (l ++ (anything ++ dollarText dollar)) = l := by
  cases dollar with
  | true =>
    have htext : anything ++ dollarText true = ['.', '*', '$'] := rfl
    rw [htext, strip_end]
    rfl
  | false =>
    have htext : anything ++ dollarText false = ['.', '*'] := rfl
    have hlast : (l ++ ['.', '*']).getLast? = some '*' := List.getLast?_append_of_ne_nil _ (List.cons_ne_nil _ _)
    rw [htext, strip_end_none (List.cons_ne_nil _ _) (by rw [hlast]; decide), strip_end]
    rfl

private theorem strip_anything_start (l : List Char) (caret : Bool) :
    (((caretText caret ++ (anything ++ l)).dropPrefix? ['^', '.', '*']).or
      ((caretText caret ++ (anything ++ l)).dropPrefix? ['.', '*'])).getD (caretText caret ++ (anything ++ l)) = l := by
  cases caret with
  | true =>
    have htext : caretText true ++ (anything ++ l) = ['^', '.', '*'] ++ l := rfl
    rw [htext, strip_start]
    rfl
  | false =>
    have htext : caretText false ++ (anything ++ l) = ['.', '*'] ++ l := rfl
    have hhead : (['.', '*'] ++ l).head? = some '.' := rfl
    rw [htext, strip_start_none (List.cons_ne_nil _ _) (by rw [hhead]; decide), strip_start]
    rfl

theorem stripStart_of_text {text : List Char} (h : StartText w text) : stripStart text = w := by
  obtain ⟨hw, caret, dollar, rfl⟩ := h
  have hhead := hw.head_ne (c := '^') (by decide) []
  rw [List.append_nil] at hhead
  rw [← List.append_assoc, stripStart, strip_anything_end, strip_caret hhead]

theorem stripEnd_of_text {text : List Char} (h : EndText w text) : stripEnd text = w := by
  obtain ⟨hw, caret, dollar, rfl⟩ := h
  have hlast : w.getLast? ≠ some '$' := hw.getLast_ne (by decide) []
  rw [stripEnd, strip_anything_start, strip_dollar hlast]

/-- Matching and stripping sort expressions as the walk over their characters does. -/
theorem classify_eq_byShape (e : String) : classify e = classifyByShape e := by
  have hstart : expressionMatches startShape e = true ↔ ∃ w, classify e = .startsWith w := by
    simp only [startShape_matches_iff, classify_startsWith_iff]
  have hend : expressionMatches endShape e = true ↔ ∃ w, classify e = .endsWith w := by
    simp only [endShape_matches_iff, classify_endsWith_iff]
  have hwhole : expressionMatches wholeShape e = true ↔ classify e = .everything := by
    rw [wholeShape_matches_iff, classify_everything_iff]
  rw [classifyByShape]
  cases h : classify e with
  | startsWith w => rw [if_pos (hstart.mpr ⟨w, h⟩), stripStart_of_text (classify_startsWith_iff.mp h)]
  | endsWith w =>
    simp only [h, reduceCtorEq, exists_false, iff_false] at hstart
    rw [if_neg hstart, if_pos (hend.mpr ⟨w, h⟩), stripEnd_of_text (classify_endsWith_iff.mp h)]
  | everything =>
    simp only [h, reduceCtorEq, exists_false, iff_false] at hstart hend
    rw [if_neg hstart, if_neg hend, if_pos (hwhole.mpr h)]
  | generic =>
    simp only [h, reduceCtorEq, exists_false, iff_false] at hstart hend hwhole
    rw [if_neg hstart, if_neg hend, if_neg hwhole]

end Matching

/-- An expression is of a simple shape exactly if its text is, with one word; every other expression is generic. The
words of endings are filed back to front. The same is told by three expressions and what is stripped from their
matches. -/
theorem classify_grammar (e : String) :
    (∀ w, classify e = .startsWith w ↔ StartText w e.toList) ∧
      (∀ w : List Char, classify e = .endsWith w.reverse ↔ EndText w.reverse e.toList) ∧
      (classify e = .everything ↔ WholeText e.toList) ∧
      (classify e = .generic ↔
        (∀ w, ¬ StartText w e.toList) ∧ (∀ w, ¬ EndText w e.toList) ∧ ¬ WholeText e.toList) ∧
      (∀ v w, StartText v e.toList → StartText w e.toList → v = w) ∧
      (∀ v w, EndText v e.toList → EndText w e.toList → v = w) ∧
      classify e = classifyByShape e := by
  refine ⟨fun _ => classify_startsWith_iff, fun _ => classify_endsWith_iff, classify_everything_iff,
    classify_generic_iff, fun v w hv hw => ?_, fun v w hv hw => ?_, classify_eq_byShape e⟩
  · exact startsWith.inj ((classify_of_startText hv).symm.trans (classify_of_startText hw))
  · exact endsWith.inj ((classify_of_endText hv).symm.trans (classify_of_endText hw))

end ResourcePattern
end Turnstile

import Turnstile.Proofs.Resource.History
import Turnstile.Proofs.Resource.Shape

/-! Simple expressions that are anchored at the end that their shape fixes. Within one line they match just what an
index finds for them, unless they are too long to be compiled. -/
namespace Turnstile
open Regex

namespace ResourcePattern
variable {e : String} {w t : List Char}

/-- The text of an anchored simple expression. -/
inductive Tied : List Char → Prop where
  | start {w : List Char} (dollar : Bool) : IsWord w → Tied (caretText true ++ (w ++ (anything ++ dollarText dollar)))
  | ends {w : List Char} (caret : Bool) : IsWord w → Tied (caretText caret ++ (anything ++ (w ++ dollarText true)))
  | whole (caret dollar : Bool) : Tied (caretText caret ++ (anything ++ dollarText dollar))

section Line
variable {caret dollar : Bool}

/-- A caret stands at the start, if at all. -/
private theorem spans_caretParts_start : Spans t (seq (caretParts caret)) 0 0 :=
  spans_caretParts_iff.mpr ⟨rfl, Nat.zero_le _, fun _ => rfl⟩

private theorem spans_dollarParts_end : Spans t (seq (dollarParts dollar)) t.length t.length :=
  spans_dollarParts_iff.mpr ⟨rfl, Nat.le_refl _, fun _ => rfl⟩

private theorem spans_anythingParts (line : '\n' ∉ t) {i j : Nat} (hij : i ≤ j) (hj : j ≤ t.length) :
    Spans t (seq [Regex.anything]) i j :=
  spans_seq_singleton.mpr (spans_anything_of_line line hij hj)

theorem occurs_startParts_iff (line : '\n' ∉ t) : Occurs (seq (startParts true dollar w)) t ↔ w <+: t := by
  refine ⟨prefix_of_occurs, fun hw => ?_⟩
  have hword : Spans t (seq (wordParts w)) 0 w.length := spans_word_iff.mpr ⟨Nat.zero_le _, (Nat.zero_add _).symm, hw⟩
  have hany := spans_anythingParts line hw.length_le (Nat.le_refl _)
  exact ⟨_, _, spans_caretParts_start.append (hword.append (hany.append spans_dollarParts_end))⟩

theorem occurs_endParts_iff (line : '\n' ∉ t) : Occurs (seq (endParts caret true w)) t ↔ w <:+ t := by
  refine ⟨suffix_of_occurs, ?_⟩
  rintro ⟨before, rfl⟩
  have hlength : (before ++ w).length = before.length + w.length := List.length_append
  have hbefore : before.length ≤ (before ++ w).length := hlength ▸ Nat.le_add_right ..
  have hany := spans_anythingParts line (Nat.zero_le _) hbefore
  have hword : Spans (before ++ w) (seq (wordParts w)) before.length (before ++ w).length :=
    spans_word_iff.mpr ⟨hbefore, hlength, by rw [List.drop_left]⟩
  exact ⟨_, _, spans_caretParts_start.append (hany.append (hword.append spans_dollarParts_end))⟩

/-- The parts of an expression that matches every line. -/
def wholeParts (caret dollar : Bool) : List Regex := caretParts caret ++ ([Regex.anything] ++ dollarParts dollar)

theorem occurs_wholeParts (line : '\n' ∉ t) : Occurs (seq (wholeParts caret dollar)) t := by
  have hany := spans_anythingParts line (Nat.zero_le _) (Nat.le_refl _)
  exact ⟨_, _, spans_caretParts_start.append (hany.append spans_dollarParts_end)⟩

end Line

section Room

theorem utf8Size_of_isLiteral {c : Char} (h : isLiteral c = true) : c.utf8Size = 1 := by
  rw [Char.utf8Size_eq_one_iff]
  rcases isLiteral_iff.mp h with (((⟨-, h⟩ | ⟨-, h⟩) | ⟨-, h⟩) | rfl) | rfl
  · exact UInt32.le_trans h (by decide)
  · exact UInt32.le_trans h (by decide)
  · exact UInt32.le_trans h (by decide)
  · decide
  · decide

theorem room_wordParts (hw : ∀ c ∈ w, isLiteral c = true) : (seq (wordParts w)).room = 4 * w.length := by
  induction w with
  | nil => rfl
  | cons c w ih =>
    obtain ⟨hc, hw⟩ := List.forall_mem_cons.mp hw
    have hroom : (Regex.chars (.single c)).room = 4 * c.utf8Size := if_pos rfl
    have hstep : (seq (wordParts (c :: w))).room = (Regex.chars (.single c)).room + (seq (wordParts w)).room := rfl
    rw [hstep, hroom, utf8Size_of_isLiteral hc, ih hw, List.length_cons]
    omega

variable {caret dollar : Bool}

private theorem room_caretParts : (seq (caretParts caret)).room = 4 * (caretText caret).length := by
  cases caret <;> rfl

private theorem room_dollarParts : (seq (dollarParts dollar)).room = 4 * (dollarText dollar).length := by
  cases dollar <;> rfl

private theorem room_anything : (seq [Regex.anything]).room = 4 * anything.length + 50 := rfl

/-- The room that an expression takes depends on its length only. -/
private theorem parse?_of_room {parts : List Regex} (hreads : Reads e.toList parts) (hparts : 2 ≤ parts.length)
    (hroom : (seq parts).room = 4 * e.length + 50) :
    Regex.parse? e ≠ none ↔ 4 * e.length + 50 ≤ roomLimit := by
  rw [parse?_of_reads hreads hparts, hroom]
  split
  · next hle => exact iff_of_true (Option.some_ne_none _) hle
  · next hle => exact iff_of_false (fun h => h rfl) hle

theorem compiles_start_iff (hw : IsWord w)
    (he : e.toList = caretText caret ++ (w ++ (anything ++ dollarText dollar))) :
    Regex.parse? e ≠ none ↔ 4 * e.length + 50 ≤ roomLimit := by
  refine parse?_of_room (he ▸ reads_start hw caret dollar) (two_le_length_parts hw caret dollar).1 ?_
  rw [← String.length_toList, he]
  simp only [startParts, room_seq_append, List.length_append, room_wordParts hw.2, room_caretParts, room_dollarParts,
    room_anything]
  omega

theorem compiles_end_iff (hw : IsWord w)
    (he : e.toList = caretText caret ++ (anything ++ (w ++ dollarText dollar))) :
    Regex.parse? e ≠ none ↔ 4 * e.length + 50 ≤ roomLimit := by
  refine parse?_of_room (he ▸ reads_end hw caret dollar) (two_le_length_parts hw caret dollar).2 ?_
  rw [← String.length_toList, he]
  simp only [endParts, room_seq_append, List.length_append, room_wordParts hw.2, room_caretParts, room_dollarParts,
    room_anything]
  omega

/-- The four expressions that match every line are short. -/
theorem exists_parse?_whole (he : e.toList = caretText caret ++ (anything ++ dollarText dollar)) :
    ∃ q, Regex.parse? e = some q ∧ q.Ordered ∧ ∀ t, '\n' ∉ t → Occurs q t := by
  have hordered : ∀ r ∈ wholeParts caret dollar, r.Ordered := by
    cases caret <;> cases dollar <;> simp [wholeParts, caretParts, dollarParts, Regex.anything, Ordered]
  obtain rfl : e = String.ofList (caretText caret ++ (anything ++ dollarText dollar)) := by
    rw [← he, String.ofList_toList]
  by_cases hplain : caret = false ∧ dollar = false
  · obtain ⟨rfl, rfl⟩ := hplain
    refine ⟨Regex.anything, by decide +kernel, hordered _ List.mem_cons_self, fun t line => ?_⟩
    have hwhole : Occurs (seq (wholeParts false false)) t := occurs_wholeParts line
    obtain ⟨i, j, h⟩ := hwhole
    exact ⟨i, j, spans_seq_singleton.mp h⟩
  · refine ⟨seq (wholeParts caret dollar), ?_, ordered_seq hordered, fun t line => occurs_wholeParts line⟩
    revert hplain
    cases caret <;> cases dollar <;> decide +kernel

theorem compiles_of_tied (tied : Tied e.toList) (short : e.length ≤ 300000) : Regex.parse? e ≠ none := by
  have hroom : 4 * e.length + 50 ≤ roomLimit := by
    rw [roomLimit]
    omega
  generalize he : e.toList = text at tied
  cases tied with
  | start dollar hw => exact (compiles_start_iff hw he).mpr hroom
  | ends caret hw => exact (compiles_end_iff hw he).mpr hroom
  | whole caret dollar =>
    obtain ⟨q, hparse, -⟩ := exists_parse?_whole he
    exact fun h => nomatch hparse.symm.trans h

end Room

/-- Within a line, what an anchored expression matches is what is found for it. -/
theorem covers_iff_matches_of_tied {resource : String} (tied : Tied e.toList) (line : '\n' ∉ resource.toList)
    (valid : Regex.parse? e ≠ none) :
    (Coverage.expression e).bucket.Covers resource ↔ expressionMatches e resource = true := by
  rw [Coverage.bucket]
  generalize he : e.toList = text at tied
  cases tied with
  | @start w dollar hw =>
    rw [classify_of_startText ⟨hw, true, dollar, he⟩, expressionMatches_iff_occurs (he ▸ reads_start hw true dollar)
      (two_le_length_parts hw true dollar).1 (ordered_parts true dollar w).1, and_iff_right valid,
      occurs_startParts_iff line]
    rfl
  | @ends w caret hw =>
    rw [classify_of_endText ⟨hw, caret, true, he⟩, expressionMatches_iff_occurs (he ▸ reads_end hw caret true)
      (two_le_length_parts hw caret true).2 (ordered_parts caret true w).2, and_iff_right valid,
      occurs_endParts_iff line]
    rfl
  | whole caret dollar =>
    obtain ⟨q, hparse, hordered, hall⟩ := exists_parse?_whole he
    rw [classify_of_wholeText ⟨caret, dollar, he⟩, expressionMatches, expressionMatches?, hparse, Option.map_some,
      Option.getD_some, isMatch, matchesText_iff hordered]
    exact iff_of_true trivial (hall _ line)

end ResourcePattern

namespace ResourceIndex
open ResourcePattern (Tied)
variable {x : ResourceIndex} {c : Coverage} {id resource : String}

/-- What is new to an index is found just for what it was inserted with. -/
theorem Sound.mem_matching_insert (h : x.Sound) (fresh : id ∉ x.all) :
    id ∈ (x.insert c id).matching resource ↔ c.bucket.Covers resource := by
  have hnew (b : Bucket) : (x.insert c id).Holds id b ↔ b = c.bucket := by
    rw [holds_insert, and_iff_left rfl, or_iff_left fun hb => fresh (mem_all.mpr ⟨b, hb⟩)]
  simp only [h.insert.mem_matching, hnew, exists_eq_left]

/-- An anchored simple expression is found for just the lines that it matches, if it compiles; up to 300000
characters it does. -/
theorem mem_matching_insert_iff_matches (history : List Step) (id e resource : String)
    (fresh : id ∉ (after history).all) (tied : Tied e.toList) (line : '\n' ∉ resource.toList) :
    (Regex.parse? e ≠ none → (id ∈ ((after history).insert (.expression e) id).matching resource ↔
        expressionMatches e resource = true)) ∧
      (e.length ≤ 300000 → Regex.parse? e ≠ none) := by
  refine ⟨fun valid => ?_, ResourcePattern.compiles_of_tied tied⟩
  rw [(sound_after history).mem_matching_insert fresh]
  exact ResourcePattern.covers_iff_matches_of_tied tied line valid

/-- Among longer and shorter keys. -/
theorem mem_matching_insert_iff_matches_node :
    let history : List Step := [.insert (.expression "^/node/.*") "1", .insert (.expression "/n.*") "2"]
    "3" ∉ (after history).all ∧ Tied "^/no.*$".toList ∧ '\n' ∉ "/node/a".toList ∧
      "3" ∈ ((after history).insert (.expression "^/no.*$") "3").matching "/node/a" := by
  intro history
  have fresh : "3" ∉ (after history).all := by decide +kernel
  have tied : Tied "^/no.*$".toList := by
    have hw : ResourcePattern.IsWord ['/', 'n', 'o'] := ⟨List.cons_ne_nil _ _, List.all_eq_true.mp rfl⟩
    exact .start true hw
  have line : '\n' ∉ "/node/a".toList := by decide
  obtain ⟨hagrees, hcompiles⟩ := mem_matching_insert_iff_matches history "3" "^/no.*$" "/node/a" fresh tied line
  exact ⟨fresh, tied, line, (hagrees (hcompiles (by decide))).mpr (by decide +kernel)⟩

/-- An expression that is too long to be compiled matches nothing, but is found by its word. -/
theorem mem_matching_insert_overlong :
    let w := List.replicate 500000 'a'
    let e := String.ofList ('^' :: (w ++ ['.', '*']))
    let resource := String.ofList w
    ResourcePattern.IsWord w ∧ '\n' ∉ resource.toList ∧ "1" ∉ (after []).all ∧
      "1" ∈ ((after []).insert (.expression e) "1").matching resource ∧ expressionMatches e resource = false := by
  intro w e resource
  have hword : ResourcePattern.IsWord w := by
    refine ⟨List.ne_nil_of_length_pos ?_, fun c hc => ?_⟩
    · rw [List.length_replicate]
      decide
    · rw [List.eq_of_mem_replicate hc]
      decide
  have htext : e.toList = ResourcePattern.caretText true ++ (w ++ (ResourcePattern.anything ++
      ResourcePattern.dollarText false)) := String.toList_ofList
  have hline : '\n' ∉ resource.toList := by
    rw [String.toList_ofList]
    intro hc
    exact absurd (List.eq_of_mem_replicate hc) (by decide)
  have hlength : e.length = 500003 := by
    rw [← String.length_toList, htext]
    simp only [List.length_append, w, List.length_replicate]
    rfl
  have hnone : Regex.parse? e = none := by
    by_contra hsome
    have hroom := (ResourcePattern.compiles_start_iff hword htext).mp hsome
    rw [hlength, roomLimit] at hroom
    omega
  have fresh : "1" ∉ (after []).all := by decide
  refine ⟨hword, hline, fresh, ?_, by rw [expressionMatches, expressionMatches?, hnone]; rfl⟩
  rw [(sound_after []).mem_matching_insert fresh, Coverage.bucket,
    ResourcePattern.classify_of_startText ⟨hword, true, false, htext⟩]
  change w <+: resource.toList
  rw [String.toList_ofList]

end ResourceIndex
end Turnstile

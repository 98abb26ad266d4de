import Turnstile.Proofs.Regex.Sequence

/-! The words that an expression spells. An expression that does not look around matches wherever one of its words
stands. -/
namespace Turnstile.Regex
variable {t w : List Char} {i j : Nat}

/-- No assertion looks at the characters around. -/
def Plain : Regex → Prop
  | .empty | .chars _ => True
  | .assert _ => False
  | .cat a b | .alt a b => a.Plain ∧ b.Plain
  | .times r _ _ => r.Plain

def Spells : Regex → List Char → Prop
  | .empty, w => w = []
  | .chars k, w => ∃ c, w = [c] ∧ k.mem c = true
  | .assert _, _ => False
  | .cat a b, w => ∃ u v, w = u ++ v ∧ Spells a u ∧ Spells b v
  | .alt a b, w => Spells a w ∨ Spells b w
  | .times r low high, w => ∃ words : List (List Char), w = words.flatten ∧ low ≤ words.length ∧
      (∀ h, high = some h → words.length ≤ h) ∧ ∀ v ∈ words, Spells r v

theorem spans_word_append {u v : List Char} : Spans t (seq (wordParts (u ++ v))) i j ↔
    ∃ m, Spans t (seq (wordParts u)) i m ∧ Spans t (seq (wordParts v)) m j := by
  rw [wordParts, List.map_append]
  exact spans_seq_append

theorem spans_word_singleton {c : Char} : Spans t (seq (wordParts [c])) i j ↔ j = i + 1 ∧ t[i]? = some c := by
  refine spans_seq_singleton.trans (spans_chars_iff.trans (and_congr_right fun _ => ?_))
  simp only [mem_single, exists_eq_right]

/-- Where each step is a word, a row of steps is a row of words. -/
private theorem row_spans_iff {r : Regex} {k : Nat}
    (hr : ∀ i j, Spans t r i j ↔ ∃ w, r.Spells w ∧ Spans t (seq (wordParts w)) i j) (hi : i ≤ t.length) :
    Row (Spans t r) k i j ↔ ∃ words : List (List Char), words.length = k ∧ (∀ v ∈ words, r.Spells v) ∧
      Spans t (seq (wordParts words.flatten)) i j := by
  induction k generalizing i with
  | zero =>
    constructor
    · rintro rfl
      exact ⟨[], rfl, fun _ h => absurd h List.not_mem_nil, .empty hi⟩
    · rintro ⟨words, hnil, -, hs⟩
      obtain rfl := List.length_eq_zero_iff.mp hnil
      exact (spans_empty_iff.mp hs).1
  | succ k ih =>
    constructor
    · rintro ⟨m, hm, hrow⟩
      obtain ⟨w, hw, hs⟩ := (hr i m).mp hm
      obtain ⟨words, hk, hwords, hrest⟩ := (ih hs.le.2).mp hrow
      exact ⟨w :: words, congrArg Nat.succ hk, List.forall_mem_cons.mpr ⟨hw, hwords⟩,
        spans_word_append.mpr ⟨m, hs, hrest⟩⟩
    · rintro ⟨words, hk, hwords, hs⟩
      cases words with
      | nil => cases hk
      | cons w words =>
        obtain ⟨hw, hwords⟩ := List.forall_mem_cons.mp hwords
        obtain ⟨m, hs, hrest⟩ := spans_word_append.mp hs
        exact ⟨m, (hr i m).mpr ⟨w, hw, hs⟩, (ih hs.le.2).mpr ⟨words, Nat.succ.inj hk, hwords, hrest⟩⟩

/-- An expression without assertions matches where one of its words stands. -/
theorem spans_iff_spells {r : Regex} (h : r.Plain) :
    Spans t r i j ↔ ∃ w, r.Spells w ∧ Spans t (seq (wordParts w)) i j := by
  induction r generalizing i j with
  | empty =>
    simp only [Spells, exists_eq_left]
    rfl
  | chars k =>
    simp only [Spells, spans_chars_iff]
    constructor
    · rintro ⟨hj, c, hc, hk⟩
      exact ⟨[c], ⟨c, rfl, hk⟩, spans_word_singleton.mpr ⟨hj, hc⟩⟩
    · rintro ⟨_, ⟨c, rfl, hk⟩, hs⟩
      obtain ⟨hj, hc⟩ := spans_word_singleton.mp hs
      exact ⟨hj, c, hc, hk⟩
  | assert a => exact h.elim
  | cat a b iha ihb =>
    simp only [Spells, spans_cat_iff, iha h.1, ihb h.2]
    constructor
    · rintro ⟨m, ⟨u, hu, hsu⟩, v, hv, hsv⟩
      exact ⟨u ++ v, ⟨u, v, rfl, hu, hv⟩, spans_word_append.mpr ⟨m, hsu, hsv⟩⟩
    · rintro ⟨_, ⟨u, v, rfl, hu, hv⟩, hs⟩
      obtain ⟨m, hsu, hsv⟩ := spans_word_append.mp hs
      exact ⟨m, ⟨u, hu, hsu⟩, v, hv, hsv⟩
  | alt a b iha ihb => simp only [Spells, spans_alt_iff, iha h.1, ihb h.2, or_and_right, exists_or]
  | times r low high ih =>
    rw [spans_times_iff]
    constructor
    · rintro ⟨hi, k, hlow, hhigh, hrow⟩
      obtain ⟨words, rfl, hwords, hs⟩ := (row_spans_iff (fun i j => ih h) hi).mp hrow
      exact ⟨words.flatten, ⟨words, rfl, hlow, hhigh, hwords⟩, hs⟩
    · rintro ⟨_, ⟨words, rfl, hlow, hhigh, hwords⟩, hs⟩
      have hi := Nat.le_trans hs.le.1 hs.le.2
      exact ⟨hi, words.length, hlow, hhigh, (row_spans_iff (fun i j => ih h) hi).mpr ⟨words, rfl, hwords, hs⟩⟩

/-- Characters one by one are the text that they make up. -/
private theorem flatten_of_spells_chars {k : CharClass} {words : List (List Char)}
    (h : ∀ v ∈ words, (Regex.chars k).Spells v) :
    words.flatten.length = words.length ∧ ∀ c ∈ words.flatten, k.mem c = true := by
  induction words with
  | nil => exact ⟨rfl, fun _ hc => absurd hc List.not_mem_nil⟩
  | cons v words ih =>
    obtain ⟨⟨c, rfl, hc⟩, hwords⟩ := List.forall_mem_cons.mp h
    obtain ⟨hlength, hall⟩ := ih hwords
    exact ⟨congrArg Nat.succ hlength, List.forall_mem_cons.mpr ⟨hc, hall⟩⟩

/-- A repetition of a class spells the words of its characters that are not too short and not too long. -/
theorem spells_times_chars {k : CharClass} {low : Nat} {high : Option Nat} :
    (Regex.times (.chars k) low high).Spells w ↔
      low ≤ w.length ∧ (∀ h, high = some h → w.length ≤ h) ∧ ∀ c ∈ w, k.mem c = true := by
  constructor
  · rintro ⟨words, rfl, hlow, hhigh, hwords⟩
    obtain ⟨hlength, hall⟩ := flatten_of_spells_chars hwords
    rw [hlength]
    exact ⟨hlow, hhigh, hall⟩
  · rintro ⟨hlow, hhigh, hall⟩
    refine ⟨w.map fun c => [c], (List.flatMap_singleton' w).symm, ?_, ?_, ?_⟩
    · rwa [List.length_map]
    · rwa [List.length_map]
    · rw [List.forall_mem_map]
      exact fun c hc => ⟨c, rfl, hall c hc⟩

/-- An expression that is tied to both ends matches the texts that it spells. -/
theorem occurs_whole_iff {parts : List Regex} (h : (seq parts).Plain) :
    Occurs (seq ([.assert .textStart] ++ (parts ++ [.assert .textEnd]))) t ↔ (seq parts).Spells t := by
  constructor
  · rintro ⟨i, j, hs⟩
    obtain ⟨m, hstart, hrest⟩ := spans_seq_append.mp hs
    obtain ⟨n, hparts, hend⟩ := spans_seq_append.mp hrest
    obtain ⟨rfl, rfl⟩ := spans_textStart_iff.mp (spans_seq_singleton.mp hstart)
    obtain ⟨rfl, hlast⟩ := spans_textEnd_iff.mp (spans_seq_singleton.mp hend)
    obtain ⟨w, hw, hword⟩ := (spans_iff_spells h).mp hparts
    obtain ⟨-, hn, hbegins⟩ := spans_word_iff.mp hword
    rw [List.drop_zero] at hbegins
    rw [Nat.zero_add] at hn
    rwa [← hbegins.eq_of_length (hn.symm.trans hlast)]
  · intro hw
    have hword : Spans t (seq (wordParts t)) 0 t.length :=
      spans_word_iff.mpr ⟨Nat.zero_le _, (Nat.zero_add _).symm, List.prefix_rfl⟩
    have hstart : Spans t (seq [.assert .textStart]) 0 0 := spans_seq_singleton.mpr (spans_textStart_iff.mpr ⟨rfl, rfl⟩)
    have hend : Spans t (seq [.assert .textEnd]) t.length t.length :=
      spans_seq_singleton.mpr (spans_textEnd_iff.mpr ⟨rfl, rfl⟩)
    exact ⟨_, _, hstart.append (((spans_iff_spells h).mpr ⟨t, hw, hword⟩).append hend)⟩

theorem mem_dot {c : Char} : (dot {}).mem c = true ↔ c ≠ '\n' := by
  change (!(CharClass.single '\n').mem c) = true ↔ _
  rw [Bool.not_eq_true', Bool.eq_false_iff, Ne, mem_single]

/-- Within a line everything goes. -/
theorem spans_anything_of_line (line : '\n' ∉ t) (hij : i ≤ j) (hj : j ≤ t.length) : Spans t anything i j := by
  have hlength : ((t.drop i).take (j - i)).length = j - i := by
    rw [List.length_take, List.length_drop]
    omega
  have hspells : anything.Spells ((t.drop i).take (j - i)) := by
    refine spells_times_chars.mpr ⟨Nat.zero_le _, fun _ h => (nomatch h), fun c hc => mem_dot.mpr ?_⟩
    rintro rfl
    exact line (List.mem_of_mem_drop (List.mem_of_mem_take hc))
  have hplain : anything.Plain := trivial
  refine (spans_iff_spells hplain).mpr
    ⟨_, hspells, spans_word_iff.mpr ⟨Nat.le_trans hij hj, ?_, List.take_prefix _ _⟩⟩
  rw [hlength, Nat.add_sub_cancel' hij]

theorem plain_seq {parts : List Regex} (h : ∀ r ∈ parts, r.Plain) : (seq parts).Plain := by
  induction parts with
  | nil => trivial
  | cons r parts ih =>
    obtain ⟨hr, hparts⟩ := List.forall_mem_cons.mp h
    exact ⟨hr, ih hparts⟩

theorem spells_seq_singleton {r : Regex} : (seq [r]).Spells w ↔ r.Spells w := by
  constructor
  · rintro ⟨u, v, rfl, hu, rfl⟩
    rwa [List.append_nil]
  · exact fun h => ⟨w, [], (List.append_nil w).symm, h, rfl⟩

theorem spells_seq_append {l m : List Regex} : (seq (l ++ m)).Spells w ↔
    ∃ u v, w = u ++ v ∧ (seq l).Spells u ∧ (seq m).Spells v := by
  induction l generalizing w with
  | nil =>
    constructor
    · exact fun h => ⟨[], w, rfl, rfl, h⟩
    · rintro ⟨_, v, rfl, rfl, hv⟩
      exact hv
  | cons r l ih =>
    constructor
    · rintro ⟨u, _, rfl, hu, hrest⟩
      obtain ⟨v, x, rfl, hv, hx⟩ := ih.mp hrest
      exact ⟨u ++ v, x, (List.append_assoc ..).symm, ⟨u, v, rfl, hu, hv⟩, hx⟩
    · rintro ⟨_, x, rfl, ⟨u, v, rfl, hu, hv⟩, hx⟩
      exact ⟨u, v ++ x, List.append_assoc .., hu, ih.mpr ⟨v, x, rfl, hv, hx⟩⟩

theorem spells_word {v : List Char} : (seq (wordParts v)).Spells w ↔ w = v := by
  induction v generalizing w with
  | nil => exact Iff.rfl
  | cons c v ih =>
    constructor
    · rintro ⟨_, u, rfl, ⟨d, rfl, hd⟩, hu⟩
      rw [mem_single.mp hd, ih.mp hu]
      rfl
    · rintro rfl
      exact ⟨[c], v, rfl, ⟨c, rfl, mem_single.mpr rfl⟩, ih.mpr rfl⟩

theorem room_seq_append (l m : List Regex) : (seq (l ++ m)).room = (seq l).room + (seq m).room := by
  induction l with
  | nil => exact (Nat.zero_add _).symm
  | cons r l ih => exact (congrArg (r.room + ·) ih).trans (Nat.add_assoc ..).symm

end Turnstile.Regex

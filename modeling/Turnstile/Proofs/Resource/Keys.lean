import Mathlib.Data.List.Dedup
import Mathlib.Data.List.Induction
import Mathlib.Data.List.Infix
import Turnstile.Proofs.Resource.PrefixTree

/-! A prefix tree as a map from keys to sets of identifiers, after any history of insertions and removals. A walk
along a path meets the sets of its prefixes, shortest first, and a walk over the tree meets the set of each key
once. -/
namespace Turnstile.PrefixTree

namespace Node
variable {i j : String} {n : Node} {others : List Node} {k path : List Char} {held : List Char → NameSet}

/-- Below the label of a node only the node stores keys. -/
theorem storesAmong_below (h : SoundAmong (n :: others)) :
    StoresAmong i (n :: others) (n.label ++ k) ↔ Stores i n k := by
  obtain ⟨hl, -, hhead, ho⟩ := h
  have hothers : ¬ StoresAmong i others (n.label ++ k) := by
    refine not_storesAmong ho fun m hm => ?_
    rw [head?_append hl]
    exact hhead m hm
  rw [storesAmong_cons, or_iff_left hothers]
  constructor
  · rintro ⟨rest, hk, hs⟩
    rwa [List.append_cancel_left hk]
  · exact fun hs => ⟨k, rfl, hs⟩

/-- A key is not stored by a node and by its siblings. -/
theorem not_storesAt_of_storesAmong (h : SoundAmong (n :: others)) (hs : StoresAmong i others k) :
    ¬ StoresAt j n k := by
  rintro ⟨rest, rfl, -⟩
  refine not_storesAmong h.2.2.2 (fun m hm => ?_) hs
  rw [head?_append h.1]
  exact h.2.2.1 m hm

section Along

/-- The sets of the prefixes of a path, shortest first. -/
def met (held : List Char → NameSet) (path : List Char) : List NameSet :=
  (path.inits.filter fun k => !(held k).isEmpty).map held

/-- A set counts if it is not empty. -/
private def own (ids : NameSet) : List NameSet := if ids.isEmpty then [] else [ids]

private theorem met_nil : met held [] = own (held []) := by
  rw [met, own]
  cases h : (held []).isEmpty <;> simp [h]

private theorem met_cons {c : Char} : met held (c :: path) =
    own (held []) ++ met (fun k => held (c :: k)) path := by
  rw [met, met, own, List.inits_cons, List.filter_cons, List.filter_map]
  cases h : (held []).isEmpty
  all_goals simp [Function.comp_def]

/-- The set of the empty key is met first. -/
private theorem met_update (held : List Char → NameSet) (path : List Char) : met held path =
    own (held []) ++ met (Function.update held [] .empty) path := by
  have hnone : own (.empty : NameSet) = [] := rfl
  cases path with
  | nil => rw [met_nil, met_nil, Function.update_self, hnone, List.append_nil]
  | cons c path =>
    rw [met_cons, met_cons, Function.update_self, hnone, List.nil_append]
    congr 2

/-- Where nothing is held, a path goes on from below. -/
private theorem met_append {l : List Char} (h : ∀ k, k <+: l → k ≠ l → (held k).isEmpty = true) :
    met held (l ++ path) = met (fun k => held (l ++ k)) path := by
  induction l generalizing held with
  | nil => rfl
  | cons c l ih =>
    rw [List.cons_append, met_cons, own, if_pos (h [] List.nil_prefix (List.cons_ne_nil c l).symm), List.nil_append]
    refine ih fun k hk hne => h (c :: k) ?_ fun hc => hne (List.cons.inj hc).2
    exact List.cons_prefix_cons.mpr ⟨rfl, hk⟩

mutual
theorem along_eq : (n : Node) → (path : List Char) → {held : List Char → NameSet} → Sound n →
    (∀ i k, k <+: path → (Stores i n k ↔ i ∈ held k)) → along n path = met held path
  | mk l ids children, path, held, h, hheld => by
    have hroot : held [] = ids := NameSet.ext_mem fun i => by
      rw [← hheld i [] List.nil_prefix, stores_mk_iff, or_iff_left (not_storesAmong_empty h)]
      exact and_iff_right rfl
    have hbelow : ∀ i k, k <+: path → (StoresAmong i children k ↔ i ∈ Function.update held [] .empty k) := by
      intro i k hk
      by_cases hnil : k = []
      · subst hnil
        rw [Function.update_self]
        exact iff_of_false (not_storesAmong_empty h) (Dict.not_mem_empty i)
      · rw [Function.update_of_ne hnil, ← hheld i k hk, stores_mk_iff, or_iff_right fun hs => hnil hs.1]
    rw [along, alongAmong_eq children path h hbelow, met_update held path, hroot]
    rfl

theorem alongAmong_eq : (ns : List Node) → (path : List Char) → {held : List Char → NameSet} → SoundAmong ns →
    (∀ i k, k <+: path → (StoresAmong i ns k ↔ i ∈ held k)) → alongAmong ns path = met held path
  | [], path, held, _, hheld => by
    have hempty : ∀ k ∈ path.inits, (held k).isEmpty = true := by
      intro k hk
      refine Dict.isEmpty_iff.mpr fun i hi => storesAmong_nil ((hheld i k ?_).mpr hi)
      exact (List.mem_inits k path).mp hk
    rw [alongAmong, met, List.filter_eq_nil_iff.mpr fun k hk => ?_, List.map_nil]
    rw [hempty k hk]
    decide
  | n :: others, path, held, h, hheld => by
    rw [alongAmong]
    by_cases hp : n.label.isPrefixOf path = true
    · obtain ⟨rest, rfl⟩ := List.isPrefixOf_iff_prefix.mp hp
      rw [if_pos hp, List.drop_left, met_append]
      · refine along_eq n rest h.2.1 fun i k hk => ?_
        rw [← hheld i _ ((List.prefix_append_right_inj _).mpr hk), storesAmong_below h]
      · intro k hk hne
        refine Dict.isEmpty_iff.mpr fun i hi => ?_
        rcases (hheld i k (hk.trans (List.prefix_append ..))).mpr hi with ⟨r, rfl, -⟩ | hs
        · exact hne ((List.prefix_append ..).eq_of_length_le hk.length_le).symm
        · have hnil : k ≠ [] := fun hnil => not_storesAmong_empty h.2.2.2 (hnil ▸ hs)
          refine not_storesAmong h.2.2.2 (fun m hm => ?_) hs
          obtain ⟨r, hr⟩ := hk
          rw [← head?_append hnil r, hr]
          exact h.2.2.1 m hm
    · rw [if_neg hp]
      refine alongAmong_eq others path h.2.2.2 fun i k hk => ?_
      rw [← hheld i k hk, storesAmong_cons, or_iff_right]
      rintro ⟨r, rfl, -⟩
      exact hp (List.isPrefixOf_iff_prefix.mpr ((List.prefix_append ..).trans hk))
end

end Along

section All

mutual
/-- The keys that a node stores, as a walk over the tree meets them. -/
def keys : Node → List (List Char)
  | mk _ ids children => (if ids.isEmpty then [] else [[]]) ++ keysAmong children

def keysAmong : List Node → List (List Char)
  | [] => []
  | n :: others => (keys n).map (n.label ++ ·) ++ keysAmong others
end

mutual
theorem mem_keys : (n : Node) → {k : List Char} → (k ∈ keys n ↔ ∃ i, Stores i n k)
  | mk l ids children, k => by
    have hroot : k ∈ (if ids.isEmpty then [] else [[]]) ↔ ∃ i, k = [] ∧ i ∈ ids := by
      rw [exists_and_left, ← Dict.isEmpty_eq_false_iff]
      cases ids.isEmpty <;> simp
    simp only [keys, List.mem_append, hroot, mem_keysAmong children, stores_mk_iff, exists_or]

theorem mem_keysAmong : (ns : List Node) → {k : List Char} → (k ∈ keysAmong ns ↔ ∃ i, StoresAmong i ns k)
  | [], k => by simp [keysAmong]
  | n :: others, k => by
    simp only [keysAmong, List.mem_append, List.mem_map, mem_keys n, mem_keysAmong others, storesAmong_cons, exists_or]
    refine or_congr_left ⟨?_, ?_⟩
    · rintro ⟨r, ⟨i, hs⟩, rfl⟩
      exact ⟨i, r, rfl, hs⟩
    · rintro ⟨i, r, rfl, hs⟩
      exact ⟨r, ⟨i, hs⟩, rfl⟩
end

mutual
/-- No key is met twice. -/
theorem nodup_keys : (n : Node) → Sound n → (keys n).Nodup
  | mk l ids children, h => by
    have hroot : [] ∉ keysAmong children := by
      rw [mem_keysAmong]
      rintro ⟨i, hs⟩
      exact not_storesAmong_empty h hs
    have hbelow := nodup_keysAmong children h
    rw [keys]
    cases ids.isEmpty with
    | true => exact hbelow
    | false => exact List.nodup_cons.mpr ⟨hroot, hbelow⟩

theorem nodup_keysAmong : (ns : List Node) → SoundAmong ns → (keysAmong ns).Nodup
  | [], _ => List.nodup_nil
  | n :: others, h => by
    refine List.nodup_append.mpr ⟨?_, nodup_keysAmong others h.2.2.2, ?_⟩
    · exact (nodup_keys n h.2.1).map fun _ _ => List.append_cancel_left
    · rintro _ hk k hothers rfl
      obtain ⟨r, hr, rfl⟩ := List.mem_map.mp hk
      obtain ⟨i, hs⟩ := (mem_keys n).mp hr
      obtain ⟨j, hj⟩ := (mem_keysAmong others).mp hothers
      exact not_storesAt_of_storesAmong h hj ⟨r, rfl, hs⟩
end

mutual
/-- A walk over the tree meets the set of each key. -/
theorem all_eq : (n : Node) → {held : List Char → NameSet} → Sound n →
    (∀ k ∈ keys n, ∀ i, Stores i n k ↔ i ∈ held k) → all n = (keys n).map held
  | mk l ids children, held, h, hheld => by
    have hbelow : allAmong children = (keysAmong children).map held := by
      refine allAmong_eq children h fun k hk i => ?_
      obtain ⟨j, hj⟩ := (mem_keysAmong children).mp hk
      have hne : k ≠ [] := fun hnil => not_storesAmong_empty h (hnil ▸ hj)
      rw [← hheld k (List.mem_append_right _ hk), stores_mk_iff, or_iff_right fun hs => hne hs.1]
    rw [all, keys, hbelow, List.map_append]
    congr 1
    cases hids : ids.isEmpty with
    | true => rfl
    | false =>
      have hmem : [] ∈ keys (mk l ids children) := by simp [keys, hids]
      have hroot : held [] = ids := NameSet.ext_mem fun i => by
        rw [← hheld [] hmem, stores_mk_iff, or_iff_left (not_storesAmong_empty h)]
        exact and_iff_right rfl
      rw [if_neg Bool.false_ne_true, if_neg Bool.false_ne_true, List.map_singleton, hroot]

theorem allAmong_eq : (ns : List Node) → {held : List Char → NameSet} → SoundAmong ns →
    (∀ k ∈ keysAmong ns, ∀ i, StoresAmong i ns k ↔ i ∈ held k) → allAmong ns = (keysAmong ns).map held
  | [], _, _, _ => rfl
  | n :: others, held, h, hheld => by
    rw [allAmong, keysAmong, List.map_append, List.map_map]
    congr 1
    · refine all_eq n h.2.1 fun k hk i => ?_
      rw [← storesAmong_below h]
      exact hheld _ (List.mem_append_left _ (List.mem_map_of_mem hk)) i
    · refine allAmong_eq others h.2.2.2 fun k hk i => ?_
      obtain ⟨j, hj⟩ := (mem_keysAmong others).mp hk
      rw [← hheld k (List.mem_append_right _ hk), storesAmong_cons, or_iff_right (not_storesAt_of_storesAmong h hj)]
end

end All

end Node

/-- A change of a tree. -/
inductive Step where
  | insert (key : List Char) (id : String)
  | remove (key : List Char) (id : String)

namespace Step

def key : Step → List Char
  | insert key _ | remove key _ => key

/-- What a change makes of the set of a key. -/
def revise (key : List Char) (ids : NameSet) : Step → NameSet
  | insert k id => if k = key then ids.add id else ids
  | remove k id => if k = key then Dict.erase ids id else ids

end Step

def step (t : PrefixTree) : Step → PrefixTree
  | .insert key id => t.insert key id
  | .remove key id => t.remove key id

/-- What a history of changes makes of an empty tree. -/
def after (history : List Step) : PrefixTree := history.foldl step .empty

/-- The identifiers that were inserted under a key and not removed since. -/
def held (history : List Step) (key : List Char) : NameSet := history.foldl (Step.revise key) .empty

/-- The keys that some identifier is held under. -/
def stored (history : List Step) : List (List Char) :=
  (history.map Step.key).dedup.filter fun key => !(held history key).isEmpty

variable {history : List Step} {i : String} {key path : List Char}

theorem after_concat (history : List Step) (s : Step) : after (history ++ [s]) = (after history).step s :=
  List.foldl_concat ..

theorem held_concat (history : List Step) (s : Step) (key : List Char) :
    held (history ++ [s]) key = s.revise key (held history key) :=
  List.foldl_concat ..

theorem sound_after (history : List Step) : (after history).Sound := by
  refine List.foldlRecOn (motive := Sound) history step sound_empty fun t ht s _ => ?_
  cases s with
  | insert key id => exact ht.insert
  | remove key id => exact ht.remove

/-- The tree stores what is held. -/
theorem stores_after : (after history).Stores i key ↔ i ∈ held history key := by
  induction history using List.reverseRecOn with
  | nil => exact iff_of_false not_stores_empty (Dict.not_mem_empty i)
  | append_singleton history s ih =>
    rw [after_concat, held_concat]
    cases s with
    | insert k id =>
      rw [step, stores_insert, ih, Step.revise]
      by_cases hk : k = key
      · rw [if_pos hk, NameSet.mem_add, hk, and_iff_right rfl]
      · rw [if_neg hk, or_iff_right fun h => hk h.1.symm]
    | remove k id =>
      rw [step, (sound_after history).stores_remove, ih, Step.revise]
      by_cases hk : k = key
      · rw [if_pos hk, Dict.mem_erase, hk, and_iff_right rfl, and_comm]
      · rw [if_neg hk, and_iff_left fun h => hk h.1.symm]

theorem held_of_untouched (h : key ∉ history.map Step.key) : held history key = .empty := by
  induction history using List.reverseRecOn with
  | nil => rfl
  | append_singleton history s ih =>
    rw [List.map_append, List.mem_append, not_or] at h
    have hs : s.key ≠ key := fun hs => h.2 (hs ▸ List.mem_singleton_self _)
    rw [held_concat, ih h.1]
    cases s <;> exact if_neg hs

theorem mem_stored : key ∈ stored history ↔ (held history key).isEmpty = false := by
  rw [stored, List.mem_filter, List.mem_dedup, Bool.not_eq_true', and_iff_right_iff_imp]
  intro hheld
  by_contra huntouched
  rw [held_of_untouched huntouched] at hheld
  cases hheld

theorem mem_stored_iff_stores : key ∈ stored history ↔ ∃ i, (after history).Stores i key := by
  rw [mem_stored, Dict.isEmpty_eq_false_iff]
  exact exists_congr fun i => stores_after.symm

theorem along_after (history : List Step) (path : List Char) :
    (after history).along path = (path.inits.filter (· ∈ stored history)).map (held history) := by
  refine (Node.along_eq _ path (sound_after history).root fun i k _ => stores_after).trans ?_
  refine congrArg (List.map (held history)) (List.filter_congr fun k _ => ?_)
  rw [Bool.eq_iff_iff, decide_eq_true_iff, mem_stored, Bool.not_eq_true']

theorem perm_keys (history : List Step) : (after history).root.keys.Perm (stored history) := by
  have hkeys := Node.nodup_keys _ (sound_after history).root
  have hstored : (stored history).Nodup := (List.nodup_dedup _).filter _
  refine (List.perm_ext_iff_of_nodup hkeys hstored).mpr fun k => ?_
  rw [Node.mem_keys, mem_stored_iff_stores]
  rfl

theorem all_after (history : List Step) : (after history).all.Perm ((stored history).map (held history)) := by
  have hall : (after history).all = (after history).root.keys.map (held history) :=
    Node.all_eq _ (sound_after history).root fun k _ i => stores_after
  rw [hall]
  exact (perm_keys history).map _

theorem size_after (history : List Step) : (after history).size = (stored history).length := by
  have hlength := (all_after history).length_eq
  rw [List.length_map] at hlength
  exact (sound_after history).size.trans hlength

/-- A key that loses its last identifier was counted. -/
theorem Sound.size_remove {t : PrefixTree} (h : t.Sound) (key : List Char) (id : String) :
    (t.remove key id).size + (t.root.remove id key).2.toNat = t.size := by
  rw [h.remove.size, h.size]
  exact Node.length_all_remove t.root key

/-- A walk along a path meets just the sets of the stored keys that are its prefixes, each once and shortest key
first; a walk over the tree meets the set of each stored key once. The size is the number of the stored keys, and is
not lowered at zero. -/
theorem walks_after (history : List Step) :
    (∀ path, (after history).along path = (path.inits.filter (· ∈ stored history)).map (held history)) ∧
      (after history).all.Perm ((stored history).map (held history)) ∧
      (after history).size = (stored history).length ∧
      ((after history).isEmpty = true ↔ stored history = []) ∧
      ∀ key id, ((after history).root.remove id key).2 = true → 0 < (after history).size := by
  refine ⟨along_after history, all_after history, size_after history, ?_, fun key id hdropped => ?_⟩
  · rw [isEmpty, decide_eq_true_iff, size_after, List.length_eq_zero_iff]
  · have hsize := (sound_after history).size_remove key id
    rw [hdropped, Bool.toNat_true] at hsize
    omega

end Turnstile.PrefixTree

import Mathlib.Tactic.Tauto
import Turnstile.Proofs.Dict
import Turnstile.Resource.PrefixTree

/-! What a prefix tree stores. An update changes one key, and a look-up along a path finds what is
stored at the prefixes of the path, as siblings never start alike. -/
namespace Turnstile.PrefixTree.Node

mutual
/-- The identifier is stored at the key, read from below the label of the node. -/
def Stores (id : String) : Node → List Char → Prop
  | mk _ ids children, key => (key = [] ∧ id ∈ ids) ∨ StoresAmong id children key

def StoresAmong (id : String) : List Node → List Char → Prop
  | [], _ => False
  | n :: others, key => (∃ rest, key = n.label ++ rest ∧ Stores id n rest) ∨ StoresAmong id others key
end

mutual
/-- No label below the node is empty, and siblings start with different characters. -/
def Sound : Node → Prop
  | mk _ _ children => SoundAmong children

def SoundAmong : List Node → Prop
  | [] => True
  | n :: others => n.label ≠ [] ∧ Sound n ∧ (∀ m ∈ others, m.label.head? ≠ n.label.head?) ∧
      SoundAmong others
end

/-- The key and the label are divided where they part. -/
theorem common_spec (label key : List Char) : ∃ below rest,
    label = common label key ++ below ∧ key = common label key ++ rest ∧
      (below ≠ [] → rest ≠ [] → below.head? ≠ rest.head?) := by
  induction label generalizing key with
  | nil => exact ⟨[], key, rfl, rfl, fun h => absurd rfl h⟩
  | cons a label ih =>
    cases key with
    | nil => exact ⟨a :: label, [], rfl, rfl, fun _ h => absurd rfl h⟩
    | cons b key =>
      by_cases hab : a = b
      · subst hab
        obtain ⟨below, rest, hl, hk, hne⟩ := ih key
        refine ⟨below, rest, ?_, ?_, hne⟩
        · simpa [common] using hl
        · simpa [common] using hk
      · refine ⟨a :: label, b :: key, ?_, ?_, fun _ _ h => hab (Option.some.inj h)⟩
        · simp [common, hab]
        · simp [common, hab]

theorem leads_iff {n : Node} {key : List Char} : n.leads key = true ↔ n.label.head? = key.head? := by
  simp [leads]

theorem head?_append {label : List Char} (h : label ≠ []) (rest : List Char) :
    (label ++ rest).head? = label.head? := by
  rw [List.head?_append, Option.or_of_isSome (List.isSome_head?.mpr h)]

/-- The identifier is stored at the key, read from above the label of the node. -/
def StoresAt (id : String) (n : Node) (key : List Char) : Prop :=
  ∃ rest, key = n.label ++ rest ∧ Stores id n rest

variable {id i : String} {n : Node} {others : List Node} {key k : List Char}

theorem stores_mk_iff {label : List Char} {ids : NameSet} {children : List Node} :
    Stores i (mk label ids children) k ↔ (k = [] ∧ i ∈ ids) ∨ StoresAmong i children k := Iff.rfl

@[simp] theorem storesAmong_nil : ¬ StoresAmong i [] k := id

theorem storesAmong_cons : StoresAmong i (n :: others) k ↔ StoresAt i n k ∨ StoresAmong i others k :=
  Iff.rfl

theorem storesAt_relabel {label : List Char} :
    StoresAt i (mk label n.ids n.children) k ↔ ∃ r, k = label ++ r ∧ Stores i n r := by
  cases n
  rfl

theorem storesAt_leaf {rest : List Char} : StoresAt i (leaf rest id) k ↔ k = rest ∧ i = id := by
  simp only [StoresAt, leaf, stores_mk_iff, NameSet.mem_ofList, List.mem_singleton,
    storesAmong_nil, or_false]
  constructor
  · rintro ⟨_, rfl, rfl, hi⟩
    exact ⟨List.append_nil _, hi⟩
  · rintro ⟨rfl, hi⟩
    exact ⟨[], (List.append_nil _).symm, rfl, hi⟩

section Insert

/-- A key goes on below a node, or divides its label, or belongs to another node. -/
theorem insertAmong_cases (id : String) (n : Node) (others : List Node) (key : List Char) :
    (∃ rest, key = n.label ++ rest ∧
      insertAmong id (n :: others) key = ((insert id n rest).1 :: others, (insert id n rest).2)) ∨
    (∃ shared below rest, n.label = shared ++ below ∧ key = shared ++ rest ∧ below ≠ [] ∧
      (rest ≠ [] → below.head? ≠ rest.head?) ∧ shared ≠ [] ∧
      insertAmong id (n :: others) key = (n.split shared rest id :: others, true)) ∨
    (n.label.head? ≠ key.head? ∧ insertAmong id (n :: others) key =
      (n :: (insertAmong id others key).1, (insertAmong id others key).2)) := by
  by_cases hlead : n.leads key = true
  · obtain ⟨below, rest, hl, hk, hne⟩ := common_spec n.label key
    have hrest : key.drop (common n.label key).length = rest := by
      rw [congrArg (List.drop _) hk, List.drop_left]
    by_cases hb : below = []
    · rw [hb, List.append_nil] at hl
      refine .inl ⟨rest, hk.trans (by rw [← hl]), ?_⟩
      have hshared : common n.label key = n.label := hl.symm
      rw [hshared] at hrest
      simp only [insertAmong, hlead, if_true, hshared, hrest]
    · have hs : common n.label key ≠ [] := by
        intro hs
        rw [hs, List.nil_append] at hl hk
        have hhead : below.head? = rest.head? := by rw [← hl, ← hk, leads_iff.mp hlead]
        refine hne hb (fun hr => hb ?_) hhead
        rwa [hr, List.head?_nil, List.head?_eq_none_iff] at hhead
      refine .inr (.inl ⟨_, below, rest, hl, hk, hb, hne hb, hs, ?_⟩)
      have hdivided : common n.label key ≠ n.label := fun h => hb (by simpa [h] using hl)
      simp only [insertAmong, hlead, if_true, hdivided, if_false, hrest]
  · refine .inr (.inr ⟨fun h => hlead (leads_iff.mpr h), ?_⟩)
    simp only [insertAmong, hlead]
    rfl

@[simp] theorem label_insert (n : Node) (key : List Char) : (insert id n key).1.label = n.label := by
  cases n
  cases key <;> rfl

@[simp] theorem label_split (n : Node) (shared rest : List Char) :
    (n.split shared rest id).label = shared := by
  rw [split]
  split <;> rfl

/-- A division keeps what is stored below the label, and adds one identifier where the key ends. -/
theorem stores_split {shared below rest : List Char} (hl : n.label = shared ++ below) :
    Stores i (n.split shared rest id) k ↔
      (k = rest ∧ i = id) ∨ ∃ r, k = below ++ r ∧ Stores i n r := by
  have hdrop : n.label.drop shared.length = below := by rw [hl, List.drop_left]
  cases rest with
  | nil =>
    simp only [split, List.isEmpty_nil, if_true, stores_mk_iff, storesAmong_cons, storesAt_relabel,
      hdrop, storesAmong_nil, or_false, NameSet.mem_ofList, List.mem_singleton]
  | cons c rest =>
    simp only [split, List.isEmpty_cons, Bool.false_eq_true, if_false, stores_mk_iff,
      storesAmong_cons, storesAt_relabel, storesAt_leaf, hdrop, storesAmong_nil, or_false,
      Dict.not_mem_empty, and_false, false_or]
    exact or_comm

mutual
theorem stores_insert : (n : Node) → (key : List Char) → {k : List Char} →
    (Stores i (insert id n key).1 k ↔ (k = key ∧ i = id) ∨ Stores i n k)
  | mk l ids children, [], k => by
    simp only [insert, stores_mk_iff, NameSet.mem_add]
    tauto
  | mk l ids children, c :: r, k => by
    simp only [insert, stores_mk_iff]
    rw [storesAmong_insertAmong children (c :: r)]
    tauto

theorem storesAmong_insertAmong : (ns : List Node) → (key : List Char) → {k : List Char} →
    (StoresAmong i (insertAmong id ns key).1 k ↔ (k = key ∧ i = id) ∨ StoresAmong i ns k)
  | [], key, k => by
    simp only [insertAmong, storesAmong_cons, storesAt_leaf]
  | n :: others, key, k => by
    rcases insertAmong_cases id n others key with
      ⟨rest, rfl, h⟩ | ⟨shared, below, rest, hl, rfl, -, -, -, h⟩ | ⟨-, h⟩
    · rw [h, storesAmong_cons, storesAmong_cons, ← or_assoc]
      refine or_congr_left ?_
      simp only [StoresAt, label_insert, stores_insert n rest]
      constructor
      · rintro ⟨r, rfl, ⟨rfl, hi⟩ | hr⟩
        · exact .inl ⟨rfl, hi⟩
        · exact .inr ⟨r, rfl, hr⟩
      · rintro (⟨rfl, hi⟩ | ⟨r, rfl, hr⟩)
        · exact ⟨rest, rfl, .inl ⟨rfl, hi⟩⟩
        · exact ⟨r, rfl, .inr hr⟩
    · rw [h, storesAmong_cons, storesAmong_cons, ← or_assoc]
      refine or_congr_left ?_
      simp only [StoresAt, label_split, stores_split hl, hl]
      constructor
      · rintro ⟨_, rfl, ⟨rfl, hi⟩ | ⟨r, rfl, hr⟩⟩
        · exact .inl ⟨rfl, hi⟩
        · exact .inr ⟨r, (List.append_assoc ..).symm, hr⟩
      · rintro (⟨rfl, hi⟩ | ⟨r, rfl, hr⟩)
        · exact ⟨rest, rfl, .inl ⟨rfl, hi⟩⟩
        · exact ⟨below ++ r, List.append_assoc .., .inr ⟨r, rfl, hr⟩⟩
    · rw [h, storesAmong_cons, storesAmong_cons, storesAmong_insertAmong others key]
      exact or_left_comm
end

/-- A label among siblings is an old one up to a division, or starts like the key. -/
private theorem head_insertAmong {ns : List Node} {m : Node} (h : m ∈ (insertAmong id ns key).1) :
    m.label.head? = key.head? ∨ ∃ n ∈ ns, m.label.head? = n.label.head? := by
  induction ns with
  | nil =>
    rw [insertAmong, List.mem_singleton] at h
    exact .inl (congrArg (·.label.head?) h)
  | cons n others ih =>
    rcases insertAmong_cases id n others key with
      ⟨rest, -, hins⟩ | ⟨shared, below, rest, -, hk, -, -, hs, hins⟩ | ⟨-, hins⟩
    all_goals rw [hins] at h
    · rcases List.mem_cons.mp h with rfl | h
      · exact .inr ⟨n, List.mem_cons_self, by rw [label_insert]⟩
      · exact .inr ⟨m, List.mem_cons_of_mem _ h, rfl⟩
    · rcases List.mem_cons.mp h with rfl | h
      · rw [label_split, hk, head?_append hs]
        exact .inl rfl
      · exact .inr ⟨m, List.mem_cons_of_mem _ h, rfl⟩
    · rcases List.mem_cons.mp h with rfl | h
      · exact .inr ⟨_, List.mem_cons_self, rfl⟩
      · exact (ih h).imp_right fun ⟨n', hn', he⟩ => ⟨n', List.mem_cons_of_mem _ hn', he⟩

theorem sound_mk {label : List Char} {ids : NameSet} {children : List Node} :
    Sound (mk label ids children) ↔ SoundAmong children := Iff.rfl

theorem sound_children : Sound n ↔ SoundAmong n.children := by
  cases n
  rfl

theorem soundAmong_cons : SoundAmong (n :: others) ↔ n.label ≠ [] ∧ Sound n ∧
    (∀ m ∈ others, m.label.head? ≠ n.label.head?) ∧ SoundAmong others := Iff.rfl

private theorem sound_split {shared below rest : List Char} (h : Sound n)
    (hl : n.label = shared ++ below) (hb : below ≠ [])
    (hne : rest ≠ [] → below.head? ≠ rest.head?) : Sound (n.split shared rest id) := by
  have hdrop : n.label.drop shared.length = below := by rw [hl, List.drop_left]
  have hmoved : Sound (mk below n.ids n.children) := sound_children.mp h
  cases rest with
  | nil =>
    simp only [split, List.isEmpty_nil, if_true, hdrop, sound_mk]
    exact soundAmong_cons.mpr ⟨hb, hmoved, by simp, trivial⟩
  | cons c rest =>
    simp only [split, List.isEmpty_cons, Bool.false_eq_true, if_false, hdrop, sound_mk]
    refine soundAmong_cons.mpr ⟨hb, hmoved, ?_, List.cons_ne_nil c rest, trivial, by simp, trivial⟩
    rintro m hm
    obtain rfl := List.mem_singleton.mp hm
    exact (hne (List.cons_ne_nil c rest)).symm

mutual
theorem sound_insert : (n : Node) → (key : List Char) → Sound n → Sound (insert id n key).1
  | mk _ _ _, [], h => h
  | mk _ _ children, c :: r, h => soundAmong_insertAmong children (c :: r) (List.cons_ne_nil c r) h

theorem soundAmong_insertAmong : (ns : List Node) → (key : List Char) → key ≠ [] →
    SoundAmong ns → SoundAmong (insertAmong id ns key).1
  | [], key, hk, _ => soundAmong_cons.mpr ⟨hk, trivial, by simp, trivial⟩
  | n :: others, key, hk, h => by
    obtain ⟨hl, hn, hhead, ho⟩ := h
    rcases insertAmong_cases id n others key with
      ⟨rest, -, hins⟩ | ⟨shared, below, rest, hlabel, -, hb, hne, hs, hins⟩ | ⟨hother, hins⟩
    all_goals rw [hins]
    · refine soundAmong_cons.mpr ⟨?_, sound_insert n rest hn, ?_, ho⟩ <;> rwa [label_insert]
    · refine soundAmong_cons.mpr ⟨?_, sound_split hn hlabel hb hne, ?_, ho⟩ <;> rw [label_split]
      · exact hs
      · rw [hlabel, head?_append hs] at hhead
        exact hhead
    · refine soundAmong_cons.mpr ⟨hl, hn, fun m hm => ?_, soundAmong_insertAmong others key hk ho⟩
      rcases head_insertAmong hm with hm | ⟨m', hm', he⟩
      · rw [hm]
        exact hother.symm
      · rw [he]
        exact hhead m' hm'
end

end Insert

section All

mutual
theorem exists_all_iff : (n : Node) → ((∃ s ∈ all n, i ∈ s) ↔ ∃ k, Stores i n k)
  | mk l ids children => by
    simp only [all, List.mem_append, or_and_right, exists_or, exists_allAmong_iff children,
      stores_mk_iff, exists_eq_left]
    refine or_congr_left ?_
    by_cases h : ids.isEmpty = true
    · simpa [h] using Dict.isEmpty_iff.mp h i
    · simp [h]

theorem exists_allAmong_iff : (ns : List Node) →
    ((∃ s ∈ allAmong ns, i ∈ s) ↔ ∃ k, StoresAmong i ns k)
  | [] => by simp [allAmong]
  | n :: others => by
    simp only [allAmong, List.mem_append, or_and_right, exists_or, exists_all_iff n,
      exists_allAmong_iff others, storesAmong_cons]
    refine or_congr_left ⟨?_, ?_⟩
    · rintro ⟨k, hk⟩
      exact ⟨_, k, rfl, hk⟩
    · rintro ⟨_, k, -, hk⟩
      exact ⟨k, hk⟩
end

mutual
theorem nonempty_of_mem_all : (n : Node) → {s : NameSet} → s ∈ all n → ∃ i, i ∈ s
  | mk l ids children, s, h => by
    rw [all, List.mem_append] at h
    rcases h with h | h
    · by_cases he : ids.isEmpty = true
      · simp [he] at h
      · simp only [he] at h
        obtain rfl := List.mem_singleton.mp h
        exact Dict.isEmpty_eq_false_iff.mp (eq_false_of_ne_true he)
    · exact nonempty_of_mem_allAmong children h

theorem nonempty_of_mem_allAmong : (ns : List Node) → {s : NameSet} → s ∈ allAmong ns → ∃ i, i ∈ s
  | [], s, h => absurd h List.not_mem_nil
  | n :: others, s, h => by
    rw [allAmong, List.mem_append] at h
    exact h.elim (nonempty_of_mem_all n) (nonempty_of_mem_allAmong others)
end

/-- The root of a key has one set of identifiers, or none. -/
private theorem length_own {ids : NameSet} :
    (if ids.isEmpty then [] else [ids]).length = (!ids.isEmpty).toNat := by
  cases ids.isEmpty <;> rfl

theorem length_all_mk {label : List Char} {ids : NameSet} {children : List Node} :
    (all (mk label ids children)).length = (!ids.isEmpty).toNat + (allAmong children).length := by
  rw [all, List.length_append, length_own]

theorem length_allAmong_cons :
    (allAmong (n :: others)).length = (all n).length + (allAmong others).length := by
  rw [allAmong, List.length_append]

theorem isEmpty_add {ids : NameSet} : (ids.add id).isEmpty = false :=
  Dict.isEmpty_eq_false_iff.mpr ⟨id, NameSet.mem_add.mpr (.inl rfl)⟩

private theorem length_all_leaf {rest : List Char} : (all (leaf rest id)).length = 1 := by
  rw [leaf, length_all_mk, show (NameSet.ofList [id]).isEmpty = false from isEmpty_add]
  rfl

private theorem all_relabel {label : List Char} : all (mk label n.ids n.children) = all n := by
  cases n
  rw [all, all, ids, children]

/-- A division adds one key. -/
private theorem length_all_split (n : Node) (shared rest : List Char) :
    (all (n.split shared rest id)).length = (all n).length + 1 := by
  have hnil : (allAmong []).length = 0 := rfl
  cases rest with
  | nil =>
    simp only [split, List.isEmpty_nil, if_true]
    rw [length_all_mk, length_allAmong_cons, all_relabel, hnil,
      show (NameSet.ofList [id]).isEmpty = false from isEmpty_add]
    exact Nat.add_comm ..
  | cons c rest =>
    simp only [split, List.isEmpty_cons, Bool.false_eq_true, if_false]
    rw [length_all_mk, length_allAmong_cons, length_allAmong_cons, length_all_leaf, all_relabel, hnil]
    exact Nat.zero_add _

mutual
theorem length_all_insert : (n : Node) → (key : List Char) →
    (all (insert id n key).1).length = (all n).length + (insert id n key).2.toNat
  | mk l ids children, [] => by
    simp only [insert, length_all_mk, isEmpty_add]
    cases ids.isEmpty with
    | true => simp [Nat.add_comm]
    | false => simp
  | mk l ids children, c :: r => by
    simp only [insert, length_all_mk, length_allAmong_insertAmong children (c :: r)]
    omega

theorem length_allAmong_insertAmong : (ns : List Node) → (key : List Char) →
    (allAmong (insertAmong id ns key).1).length =
      (allAmong ns).length + (insertAmong id ns key).2.toNat
  | [], key => by
    rw [insertAmong, length_allAmong_cons, length_all_leaf]
    rfl
  | n :: others, key => by
    rcases insertAmong_cases id n others key with
      ⟨rest, -, hins⟩ | ⟨shared, below, rest, -, -, -, -, -, hins⟩ | ⟨-, hins⟩
    all_goals simp only [hins, length_allAmong_cons]
    · rw [length_all_insert n rest]
      omega
    · rw [length_all_split, Bool.toNat_true]
      omega
    · rw [length_allAmong_insertAmong others key]
      omega
end

end All

section Remove

private theorem compact_cases (n : Node) : n.compact = some n ∨
    (∀ i, i ∉ n.ids) ∧ (n.children = [] ∧ n.compact = none ∨ ∃ child, n.children = [child] ∧
      n.compact = some (mk (n.label ++ child.label) child.ids child.children)) := by
  rw [compact]
  by_cases h : n.ids.isEmpty = true
  · rw [if_pos h]
    split
    · next hc => exact .inr ⟨Dict.isEmpty_iff.mp h, .inl ⟨hc, rfl⟩⟩
    · next child hc => exact .inr ⟨Dict.isEmpty_iff.mp h, .inr ⟨child, hc, rfl⟩⟩
    · exact .inl rfl
  · exact .inl (if_neg h)

private theorem stores_iff : Stores i n k ↔ (k = [] ∧ i ∈ n.ids) ∨ StoresAmong i n.children k := by
  cases n
  rfl

/-- A node that is dropped or joined stores what it stored before. -/
private theorem storesAmong_compact :
    StoresAmong i (n.compact.toList ++ others) k ↔ StoresAt i n k ∨ StoresAmong i others k := by
  rcases compact_cases n with h | ⟨hids, ⟨hc, h⟩ | ⟨child, hc, h⟩⟩
  · rw [h]
    exact storesAmong_cons
  · rw [h, StoresAt]
    simp only [stores_iff, hids, hc, and_false, storesAmong_nil, or_false, exists_false, false_or]
    rfl
  · rw [h]
    refine storesAmong_cons.trans (or_congr_left ?_)
    rw [storesAt_relabel, StoresAt]
    simp only [stores_iff (n := n), hids, hc, and_false, false_or, storesAmong_cons, storesAmong_nil,
      or_false, StoresAt]
    constructor
    · rintro ⟨r, rfl, hr⟩
      exact ⟨_, List.append_assoc .., r, rfl, hr⟩
    · rintro ⟨_, rfl, r, rfl, hr⟩
      exact ⟨r, (List.append_assoc ..).symm, hr⟩

private theorem soundAmong_compact (h : SoundAmong (n :: others)) :
    SoundAmong (n.compact.toList ++ others) := by
  obtain ⟨hl, hn, hhead, ho⟩ := h
  rcases compact_cases n with h | ⟨-, ⟨-, h⟩ | ⟨child, hc, h⟩⟩
  · rw [h]
    exact ⟨hl, hn, hhead, ho⟩
  · rw [h]
    exact ho
  · rw [h]
    rw [sound_children, hc] at hn
    refine soundAmong_cons.mpr ⟨?_, sound_children.mp hn.2.1, ?_, ho⟩
    · exact List.append_ne_nil_of_left_ne_nil hl _
    · intro m hm
      rw [label, head?_append hl]
      exact hhead m hm

private theorem allAmong_compact :
    (allAmong (n.compact.toList ++ others)).length = (all n).length + (allAmong others).length := by
  have hall : all n = (if n.ids.isEmpty then [] else [n.ids]) ++ allAmong n.children := by
    cases n
    rw [all, ids, children]
  rcases compact_cases n with h | ⟨hids, ⟨hc, h⟩ | ⟨child, hc, h⟩⟩
  · rw [h]
    exact length_allAmong_cons
  · rw [h, hall, hc, Dict.isEmpty_iff.mpr hids]
    exact (Nat.zero_add _).symm
  · rw [h, hall, hc, Dict.isEmpty_iff.mpr hids]
    refine length_allAmong_cons.trans ?_
    rw [all_relabel, if_pos rfl, List.nil_append, length_allAmong_cons]
    rfl

/-- A key goes on below a node, or belongs to another node, or is not stored. -/
theorem removeAmong_cases (id : String) (n : Node) (others : List Node) (key : List Char) :
    (∃ rest, key = n.label ++ rest ∧ removeAmong id (n :: others) key =
      ((remove id n rest).1.compact.toList ++ others, (remove id n rest).2)) ∨
    (n.label.head? = key.head? ∧ (∀ rest, key ≠ n.label ++ rest) ∧
      removeAmong id (n :: others) key = (n :: others, false)) ∨
    (n.label.head? ≠ key.head? ∧ removeAmong id (n :: others) key =
      (n :: (removeAmong id others key).1, (removeAmong id others key).2)) := by
  by_cases hlead : n.leads key = true
  · by_cases hp : n.label.isPrefixOf key = true
    · obtain ⟨rest, rfl⟩ := List.isPrefixOf_iff_prefix.mp hp
      refine .inl ⟨rest, rfl, ?_⟩
      simp only [removeAmong, hlead, if_true, hp, List.drop_left]
    · refine .inr (.inl ⟨leads_iff.mp hlead, ?_, ?_⟩)
      · rintro rest rfl
        exact hp (List.isPrefixOf_iff_prefix.mpr (List.prefix_append ..))
      · simp only [removeAmong, hlead, if_true, hp]
        rfl
  · refine .inr (.inr ⟨fun h => hlead (leads_iff.mpr h), ?_⟩)
    simp only [removeAmong, hlead]
    rfl

@[simp] theorem label_remove (n : Node) (key : List Char) : (remove id n key).1.label = n.label := by
  cases n
  cases key <;> rfl

private theorem head_of_storesAt (hl : n.label ≠ []) (h : StoresAt i n k) :
    n.label.head? = k.head? := by
  obtain ⟨rest, rfl, -⟩ := h
  rw [head?_append hl]

/-- Siblings that start differently do not store a key. -/
theorem not_storesAmong {ns : List Node} (h : SoundAmong ns)
    (hk : ∀ m ∈ ns, m.label.head? ≠ k.head?) : ¬ StoresAmong i ns k := by
  induction ns with
  | nil => exact storesAmong_nil
  | cons n others ih =>
    obtain ⟨hl, -, -, ho⟩ := h
    obtain ⟨hn, hk⟩ := List.forall_mem_cons.mp hk
    rintro (hs | hs)
    · exact hn (head_of_storesAt hl hs)
    · exact ih ho hk hs

theorem not_storesAmong_empty {ns : List Node} (h : SoundAmong ns) :
    ¬ StoresAmong i ns [] := by
  induction ns with
  | nil => exact storesAmong_nil
  | cons n others ih =>
    obtain ⟨hl, -, -, ho⟩ := h
    rintro (⟨rest, hk, -⟩ | hs)
    · exact hl (List.append_eq_nil_iff.mp hk.symm).1
    · exact ih ho hs

mutual
theorem stores_remove : (n : Node) → (key : List Char) → Sound n → {k : List Char} →
    (Stores i (remove id n key).1 k ↔ Stores i n k ∧ ¬ (k = key ∧ i = id))
  | mk l ids children, [], h, k => by
    simp only [remove, stores_mk_iff, Dict.mem_erase]
    by_cases hk : k = []
    · subst hk
      have hchildren : ¬ StoresAmong i children [] := not_storesAmong_empty h
      simp only [hchildren, true_and, or_false, ne_eq, and_comm]
    · simp only [hk, false_and, false_or, not_false_eq_true, and_true]
  | mk l ids children, c :: r, h, k => by
    simp only [remove, stores_mk_iff]
    rw [storesAmong_removeAmong children (c :: r) h]
    by_cases hk : k = []
    · simp only [hk, List.nil_eq, reduceCtorEq, false_and, not_false_eq_true, and_true]
    · simp only [hk, false_and, false_or]

theorem storesAmong_removeAmong : (ns : List Node) → (key : List Char) → SoundAmong ns →
    {k : List Char} →
    (StoresAmong i (removeAmong id ns key).1 k ↔ StoresAmong i ns k ∧ ¬ (k = key ∧ i = id))
  | [], key, _, k => by
    rw [removeAmong]
    exact ⟨fun h => absurd h storesAmong_nil, fun h => h.1⟩
  | n :: others, key, h, k => by
    obtain ⟨hl, hn, hhead, ho⟩ := h
    rcases removeAmong_cases id n others key with
      ⟨rest, rfl, hrem⟩ | ⟨hlead, hne, hrem⟩ | ⟨hother, hrem⟩
    · have hat : StoresAt i (remove id n rest).1 k ↔
          StoresAt i n k ∧ ¬ (k = n.label ++ rest ∧ i = id) := by
        simp only [StoresAt, label_remove, stores_remove n rest hn]
        constructor
        · rintro ⟨r, rfl, hr, hnot⟩
          exact ⟨⟨r, rfl, hr⟩, fun h => hnot ⟨List.append_cancel_left h.1, h.2⟩⟩
        · rintro ⟨⟨r, rfl, hr⟩, hnot⟩
          exact ⟨r, rfl, hr, fun h => hnot ⟨h.1 ▸ rfl, h.2⟩⟩
      have hrest : StoresAmong i others k → ¬ (k = n.label ++ rest ∧ i = id) := by
        rintro hs ⟨rfl, -⟩
        refine not_storesAmong ho (fun m hm => ?_) hs
        rw [head?_append hl]
        exact hhead m hm
      rw [hrem, storesAmong_compact, storesAmong_cons, hat, or_and_right, and_iff_left_of_imp hrest]
    · rw [hrem]
      refine (and_iff_left_of_imp ?_).symm
      rintro (⟨rest, rfl, -⟩ | hs) ⟨rfl, -⟩
      · exact hne rest rfl
      · exact not_storesAmong ho (fun m hm => hlead ▸ hhead m hm) hs
    · have hat : StoresAt i n k → ¬ (k = key ∧ i = id) := by
        rintro hs ⟨rfl, -⟩
        exact hother (head_of_storesAt hl hs)
      rw [hrem, storesAmong_cons, storesAmong_cons, storesAmong_removeAmong others key ho,
        or_and_right, and_iff_left_of_imp hat]
end

private theorem head_compact {m : Node} (hl : n.label ≠ []) (hm : m ∈ n.compact.toList) :
    m.label.head? = n.label.head? := by
  rcases compact_cases n with h | ⟨-, ⟨-, h⟩ | ⟨child, -, h⟩⟩
  all_goals rw [h] at hm
  · exact congrArg (·.label.head?) (List.mem_singleton.mp hm)
  · exact absurd hm List.not_mem_nil
  · obtain rfl := List.mem_singleton.mp hm
    exact head?_append hl _

/-- What is left of some siblings starts as they did. -/
private theorem head_removeAmong {ns : List Node} (h : SoundAmong ns) {m : Node}
    (hm : m ∈ (removeAmong id ns key).1) : ∃ n ∈ ns, m.label.head? = n.label.head? := by
  induction ns with
  | nil => exact absurd hm List.not_mem_nil
  | cons n others ih =>
    obtain ⟨hl, -, -, ho⟩ := h
    rcases removeAmong_cases id n others key with ⟨rest, -, hrem⟩ | ⟨-, -, hrem⟩ | ⟨-, hrem⟩
    all_goals rw [hrem] at hm
    · rcases List.mem_append.mp hm with hm | hm
      · refine ⟨n, List.mem_cons_self, ?_⟩
        rw [head_compact (by rwa [label_remove]) hm, label_remove]
      · exact ⟨m, List.mem_cons_of_mem _ hm, rfl⟩
    · exact ⟨m, hm, rfl⟩
    · rcases List.mem_cons.mp hm with rfl | hm
      · exact ⟨_, List.mem_cons_self, rfl⟩
      · obtain ⟨n', hn', he⟩ := ih ho hm
        exact ⟨n', List.mem_cons_of_mem _ hn', he⟩

mutual
theorem sound_remove : (n : Node) → (key : List Char) → Sound n → Sound (remove id n key).1
  | mk _ _ _, [], h => h
  | mk _ _ children, c :: r, h => soundAmong_removeAmong children (c :: r) h

theorem soundAmong_removeAmong : (ns : List Node) → (key : List Char) → SoundAmong ns →
    SoundAmong (removeAmong id ns key).1
  | [], key, _ => trivial
  | n :: others, key, h => by
    obtain ⟨hl, hn, hhead, ho⟩ := h
    rcases removeAmong_cases id n others key with ⟨rest, -, hrem⟩ | ⟨-, -, hrem⟩ | ⟨-, hrem⟩
    all_goals rw [hrem]
    · refine soundAmong_compact ⟨?_, sound_remove n rest hn, ?_, ho⟩ <;> rwa [label_remove]
    · exact ⟨hl, hn, hhead, ho⟩
    · refine soundAmong_cons.mpr ⟨hl, hn, fun m hm => ?_, soundAmong_removeAmong others key ho⟩
      obtain ⟨m', hm', he⟩ := head_removeAmong ho hm
      rw [he]
      exact hhead m' hm'
end

mutual
theorem length_all_remove : (n : Node) → (key : List Char) →
    (all (remove id n key).1).length + (remove id n key).2.toNat = (all n).length
  | mk l ids children, [] => by
    simp only [remove, length_all_mk]
    by_cases hid : id ∈ ids
    · have hne : ids.isEmpty = false := Dict.isEmpty_eq_false_iff.mpr ⟨id, hid⟩
      rw [hne, Dict.contains_iff.mpr hid]
      cases (Dict.erase ids id).isEmpty with
      | true => simp [Nat.add_comm]
      | false => simp
    · have he : (Dict.erase ids id).isEmpty = ids.isEmpty := by
        rw [Bool.eq_iff_iff, Dict.isEmpty_iff, Dict.isEmpty_iff]
        refine forall_congr' fun j => not_congr (Dict.mem_erase.trans (and_iff_right_of_imp ?_))
        rintro hj rfl
        exact hid hj
      rw [he, Dict.contains_eq_false_iff.mpr hid]
      rfl
  | mk l ids children, c :: r => by
    simp only [remove, length_all_mk, ← length_allAmong_removeAmong children (c :: r)]
    omega

theorem length_allAmong_removeAmong : (ns : List Node) → (key : List Char) →
    (allAmong (removeAmong id ns key).1).length + (removeAmong id ns key).2.toNat =
      (allAmong ns).length
  | [], key => rfl
  | n :: others, key => by
    rcases removeAmong_cases id n others key with ⟨rest, -, hrem⟩ | ⟨-, -, hrem⟩ | ⟨-, hrem⟩
    all_goals simp only [hrem, length_allAmong_cons]
    · rw [allAmong_compact, ← length_all_remove n rest]
      omega
    · rfl
    · rw [← length_allAmong_removeAmong others key]
      omega
end

end Remove

section Along
variable {path : List Char}

mutual
/-- A look-up along a path finds what is stored at its prefixes. -/
theorem exists_along_iff : (n : Node) → (path : List Char) → Sound n →
    ((∃ s ∈ along n path, i ∈ s) ↔ ∃ k, k <+: path ∧ Stores i n k)
  | mk l ids children, path, h => by
    simp only [along, List.mem_append, or_and_right, exists_or,
      exists_alongAmong_iff children path h, stores_mk_iff, and_or_left]
    refine or_congr_left ?_
    by_cases he : ids.isEmpty = true
    · simp [he, Dict.isEmpty_iff.mp he i]
    · simp only [he, Bool.false_eq_true, if_false, List.mem_singleton, exists_eq_left]
      constructor
      · intro hi
        exact ⟨[], List.nil_prefix, rfl, hi⟩
      · rintro ⟨_, -, -, hi⟩
        exact hi

theorem exists_alongAmong_iff : (ns : List Node) → (path : List Char) → SoundAmong ns →
    ((∃ s ∈ alongAmong ns path, i ∈ s) ↔ ∃ k, k <+: path ∧ StoresAmong i ns k)
  | [], path, _ => by simp [alongAmong]
  | n :: others, path, h => by
    obtain ⟨hl, hn, hhead, ho⟩ := h
    rw [alongAmong]
    by_cases hp : n.label.isPrefixOf path = true
    · obtain ⟨rest, rfl⟩ := List.isPrefixOf_iff_prefix.mp hp
      rw [if_pos hp, List.drop_left, exists_along_iff n rest hn]
      constructor
      · rintro ⟨k, hk, hs⟩
        exact ⟨n.label ++ k, (List.prefix_append_right_inj _).mpr hk, .inl ⟨k, rfl, hs⟩⟩
      · rintro ⟨k, hk, ⟨r, rfl, hs⟩ | hs⟩
        · exact ⟨r, (List.prefix_append_right_inj _).mp hk, hs⟩
        · cases k with
          | nil => exact absurd hs (not_storesAmong_empty ho)
          | cons c k =>
            obtain ⟨tail, ht⟩ := hk
            have hc : (c :: k).head? = n.label.head? := by
              rw [← head?_append hl rest, ← ht]
              rfl
            refine absurd hs (not_storesAmong ho fun m hm => ?_)
            rw [hc]
            exact hhead m hm
    · rw [if_neg hp, exists_alongAmong_iff others path ho]
      refine exists_congr fun k => and_congr_right fun hk => ?_
      rw [storesAmong_cons, or_iff_right]
      rintro ⟨r, rfl, -⟩
      exact hp (List.isPrefixOf_iff_prefix.mpr ((List.prefix_append ..).trans hk))
end

end Along

end Turnstile.PrefixTree.Node

namespace Turnstile.PrefixTree
variable {t : PrefixTree} {key k : List Char} {id i : String}

def Stores (t : PrefixTree) (id : String) (key : List Char) : Prop := t.root.Stores id key

/-- Labels are in order, and the size is the number of keys. -/
structure Sound (t : PrefixTree) : Prop where
  root : t.root.Sound
  size : t.size = t.root.all.length

theorem sound_empty : Sound empty := ⟨trivial, rfl⟩

theorem not_stores_empty : ¬ empty.Stores i k := by
  rintro (⟨-, hi⟩ | hi)
  · exact Dict.not_mem_empty i hi
  · exact Node.storesAmong_nil hi

theorem stores_insert : (t.insert key id).Stores i k ↔ (k = key ∧ i = id) ∨ t.Stores i k :=
  Node.stores_insert t.root key

theorem Sound.insert (h : t.Sound) : (t.insert key id).Sound where
  root := Node.sound_insert t.root key h.root
  size := by
    refine Eq.trans ?_ (Node.length_all_insert t.root key).symm
    rw [← h.size]
    change (if (t.root.insert id key).2 then t.size + 1 else t.size) = _
    cases (t.root.insert id key).2 <;> rfl

theorem Sound.stores_remove (h : t.Sound) :
    (t.remove key id).Stores i k ↔ t.Stores i k ∧ ¬ (k = key ∧ i = id) :=
  Node.stores_remove t.root key h.root

theorem Sound.remove (h : t.Sound) : (t.remove key id).Sound where
  root := Node.sound_remove t.root key h.root
  size := by
    have hlen : _ + (t.root.remove id key).2.toNat = _ := Node.length_all_remove t.root key
    rw [← h.size] at hlen
    change (if (t.root.remove id key).2 then t.size - 1 else t.size) = _
    cases hdrop : (t.root.remove id key).2
    all_goals
      rw [hdrop] at hlen
      exact (Nat.sub_eq_of_eq_add hlen.symm)

theorem Sound.exists_along_iff (h : t.Sound) {path : List Char} :
    (∃ s ∈ t.along path, i ∈ s) ↔ ∃ k, k <+: path ∧ t.Stores i k :=
  Node.exists_along_iff t.root path h.root

theorem exists_all_iff : (∃ s ∈ t.all, i ∈ s) ↔ ∃ k, t.Stores i k := Node.exists_all_iff t.root

/-- A tree without keys stores nothing. -/
theorem Sound.isEmpty_iff (h : t.Sound) : t.isEmpty = true ↔ ∀ i k, ¬ t.Stores i k := by
  rw [isEmpty, decide_eq_true_eq, h.size, List.length_eq_zero_iff]
  constructor
  · intro hall i k hs
    obtain ⟨s, hs, -⟩ := exists_all_iff.mpr ⟨k, hs⟩
    rw [all, hall] at hs
    exact List.not_mem_nil hs
  · intro hnone
    refine List.eq_nil_iff_forall_not_mem.mpr fun s hs => ?_
    obtain ⟨i, hi⟩ := Node.nonempty_of_mem_all t.root hs
    obtain ⟨k, hk⟩ := exists_all_iff.mp ⟨s, hs, hi⟩
    exact hnone i k hk

end Turnstile.PrefixTree

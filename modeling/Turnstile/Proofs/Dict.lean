import Mathlib.Data.List.Induction
import Turnstile.Dict

/-! Look-ups and members of maps and name sets after every operation. A key is a member when
something is stored at it. -/
namespace Turnstile

universe u v

namespace Dict
variable {α : Type u} {β : Type v}

instance : Membership String (Dict α) := ⟨fun d k => d.contains k⟩

instance (d : Dict α) (k : String) : Decidable (k ∈ d) :=
  inferInstanceAs (Decidable (d.contains k = true))

@[simp] theorem contains_iff {d : Dict α} {k : String} : d.contains k = true ↔ k ∈ d := Iff.rfl

@[simp] theorem contains_eq_false_iff {d : Dict α} {k : String} : d.contains k = false ↔ k ∉ d := by
  rw [← Bool.not_eq_true, contains_iff]

theorem mem_iff_isSome {d : Dict α} {k : String} : k ∈ d ↔ (d.get? k).isSome := Iff.rfl

theorem mem_iff {d : Dict α} {k : String} : k ∈ d ↔ ∃ v, d.get? k = some v := by
  rw [mem_iff_isSome, Option.isSome_iff_exists]

theorem get?_eq_none_iff {d : Dict α} {k : String} : d.get? k = none ↔ k ∉ d := by
  rw [mem_iff_isSome, Option.not_isSome_iff_eq_none]

theorem mem_of_get? {d : Dict α} {k : String} {v : α} (h : d.get? k = some v) : k ∈ d :=
  mem_iff.mpr ⟨v, h⟩

@[simp] theorem not_mem_empty (k : String) : k ∉ (empty : Dict α) := by
  simp [mem_iff]

theorem isEmpty_iff {d : Dict α} : d.isEmpty = true ↔ ∀ k, k ∉ d := by
  obtain ⟨l, hl⟩ := d
  cases l with
  | nil => simp [isEmpty, mem_iff, get?]
  | cons e r =>
    have he : e.1 ∈ (⟨e :: r, hl⟩ : Dict α) := by simp [mem_iff, get?]
    simp only [isEmpty, List.isEmpty_cons, Bool.false_eq_true, false_iff]
    exact fun h => h e.1 he

theorem isEmpty_eq_false_iff {d : Dict α} : d.isEmpty = false ↔ ∃ k, k ∈ d := by
  rw [← Bool.not_eq_true, isEmpty_iff, Classical.not_forall]
  simp only [Classical.not_not]

@[simp] theorem mem_keys {d : Dict α} {k : String} : k ∈ d.keys ↔ k ∈ d := by
  simp only [keys, List.mem_map, mem_iff, ← mem_entries_iff]
  constructor
  · rintro ⟨⟨_, v⟩, hv, rfl⟩
    exact ⟨v, hv⟩
  · rintro ⟨v, hv⟩
    exact ⟨_, hv, rfl⟩

theorem nodup_keys (d : Dict α) : d.keys.Nodup := by
  rw [keys, List.nodup_iff_pairwise_ne, List.pairwise_map]
  exact d.sorted.imp fun h => String.ne_of_lt h

theorem mem_values {d : Dict α} {v : α} : v ∈ d.values ↔ ∃ k, d.get? k = some v := by
  simp only [values, List.mem_map, ← mem_entries_iff]
  constructor
  · rintro ⟨⟨k, _⟩, hv, rfl⟩
    exact ⟨k, hv⟩
  · rintro ⟨k, hv⟩
    exact ⟨_, hv, rfl⟩

theorem get?_filter (d : Dict α) (p : String → α → Bool) (k : String) :
    (d.filter p).get? k = (d.get? k).filter (p k) := by
  ext v
  rw [← mem_entries_iff, Option.filter_eq_some_iff, ← mem_entries_iff]
  simp [filter]

theorem get?_map (d : Dict α) (f : α → β) (k : String) : (d.map f).get? k = (d.get? k).map f := by
  ext v
  rw [← mem_entries_iff, Option.map_eq_some_iff]
  simp only [map, List.mem_map, Prod.mk.injEq, ← mem_entries_iff]
  constructor
  · rintro ⟨⟨_, w⟩, hw, rfl, rfl⟩
    exact ⟨w, hw, rfl⟩
  · rintro ⟨w, hw, rfl⟩
    exact ⟨_, hw, rfl, rfl⟩

theorem mem_filter {d : Dict α} {p : String → α → Bool} {k : String} :
    k ∈ d.filter p ↔ ∃ v, d.get? k = some v ∧ p k v = true := by
  simp only [mem_iff, get?_filter, Option.filter_eq_some_iff]

@[simp] theorem mem_map {d : Dict α} {f : α → β} {k : String} : k ∈ d.map f ↔ k ∈ d := by
  simp [mem_iff_isSome, get?_map]

@[simp] theorem mem_insert {d : Dict α} {k j : String} {v : α} :
    j ∈ d.insert k v ↔ j = k ∨ j ∈ d := by
  by_cases h : j = k <;> simp [mem_iff_isSome, get?_insert, h]

@[simp] theorem mem_erase {d : Dict α} {k j : String} : j ∈ d.erase k ↔ j ≠ k ∧ j ∈ d := by
  by_cases h : j = k <;> simp [mem_iff_isSome, get?_erase, h]

theorem get?_update (d : Dict α) (k j : String) (fallback : α) (f : α → α) :
    (d.update k fallback f).get? j =
      if j = k then some (f ((d.get? k).getD fallback)) else d.get? j := by
  rw [update, get?_insert, getD]

@[simp] theorem mem_update {d : Dict α} {k j : String} {fallback : α} {f : α → α} :
    j ∈ d.update k fallback f ↔ j = k ∨ j ∈ d := mem_insert

theorem get?_union (d e : Dict α) (k : String) : (d.union e).get? k = (e.get? k).or (d.get? k) := by
  obtain ⟨l, hl⟩ := e
  simp only [union, get?]
  induction l generalizing d with
  | nil => simp
  | cons x r ih =>
    obtain ⟨hx, hr⟩ := List.pairwise_cons.1 hl
    rw [List.foldl_cons, ih _ hr]
    by_cases hk : x.1 = k
    · have hn : r.find? (fun e => decide (e.1 = k)) = none := by
        rw [List.find?_eq_none]
        intro y hy
        have : x.1 < y.1 := hx y hy
        simp only [decide_eq_true_eq]
        rintro rfl
        exact String.lt_irrefl _ (hk ▸ this)
      have hi := get?_insert d x.1 k x.2
      rw [if_pos hk.symm, get?] at hi
      rw [hn, hi, List.find?_cons_of_pos (by simpa using hk)]
      simp
    · have hi := get?_insert d x.1 k x.2
      rw [if_neg (Ne.symm hk), get?, get?] at hi
      rw [hi, List.find?_cons_of_neg (by simpa using hk)]

@[simp] theorem mem_union {d e : Dict α} {k : String} : k ∈ d.union e ↔ k ∈ d ∨ k ∈ e := by
  simp [mem_iff_isSome, get?_union, or_comm]

/-- A test of entries that depends on the values only is one of values. -/
theorem values_filter {d : Dict α} {p : String → α → Bool} {q : α → Bool}
    (h : ∀ k v, d.get? k = some v → p k v = q v) : (d.filter p).values = d.values.filter q := by
  rw [values, values, filter, List.filter_map]
  refine congrArg _ (List.filter_congr fun e he => ?_)
  exact h e.1 e.2 ((mem_entries_iff ..).mp he)

/-- Values that pass their tests at the same keys are listed alike. -/
theorem filter_values_congr {d e : Dict α} {p q : α → Bool}
    (h : ∀ k v, d.get? k = some v ∧ p v = true ↔ e.get? k = some v ∧ q v = true) :
    d.values.filter p = e.values.filter q := by
  rw [← values_filter (p := fun _ => p) fun _ _ _ => rfl, ← values_filter (p := fun _ => q) fun _ _ _ => rfl]
  refine congrArg values (ext_get? fun k => Option.ext fun v => ?_)
  rw [get?_filter, get?_filter, Option.filter_eq_some_iff, Option.filter_eq_some_iff]
  exact h k v

@[simp] theorem map_empty (f : α → β) : (empty : Dict α).map f = empty := rfl

theorem map_insert (d : Dict α) (k : String) (v : α) (f : α → β) :
    (d.insert k v).map f = (d.map f).insert k (f v) := by
  apply ext_get?
  intro j
  rw [get?_map, get?_insert, get?_insert, get?_map, apply_ite (Option.map f), Option.map_some]

theorem map_erase (d : Dict α) (k : String) (f : α → β) :
    (d.erase k).map f = (d.map f).erase k := by
  apply ext_get?
  intro j
  rw [get?_map, get?_erase, get?_erase, get?_map, apply_ite (Option.map f), Option.map_none]

theorem insert_erase (d : Dict α) (k : String) (v : α) : (d.erase k).insert k v = d.insert k v := by
  apply ext_get?
  intro j
  rw [get?_insert, get?_insert, get?_erase]
  by_cases hj : j = k
  · rw [if_pos hj, if_pos hj]
  · rw [if_neg hj, if_neg hj, if_neg hj]

/-- A value that is not there is not changed. -/
def modify (d : Dict α) (k : String) (f : α → α) : Dict α :=
  match d.get? k with
  | some v => d.insert k (f v)
  | none => d

theorem get?_modify (d : Dict α) (k j : String) (f : α → α) :
    (d.modify k f).get? j = if j = k then (d.get? j).map f else d.get? j := by
  rw [modify]
  by_cases hj : j = k
  · rw [if_pos hj, hj]
    cases hk : d.get? k with
    | none => exact hk
    | some v => rw [get?_insert, if_pos rfl, Option.map_some]
  · rw [if_neg hj]
    cases d.get? k with
    | none => rfl
    | some v => rw [get?_insert, if_neg hj]

theorem ofList_concat (l : List (String × α)) (e : String × α) :
    ofList (l ++ [e]) = (ofList l).insert e.1 e.2 := by
  rw [ofList, List.foldl_append, ← ofList, List.foldl_cons, List.foldl_nil]

/-- The entries that come later count. -/
theorem get?_ofList_append (l m : List (String × α)) (k : String) :
    (ofList (l ++ m)).get? k = ((ofList m).get? k).or ((ofList l).get? k) := by
  induction m using List.reverseRecOn with
  | nil => simp [ofList]
  | append_singleton m e ih =>
    rw [← List.append_assoc, ofList_concat, ofList_concat, get?_insert, get?_insert, ih]
    by_cases hk : k = e.1
    · rw [if_pos hk, if_pos hk, Option.some_or]
    · rw [if_neg hk, if_neg hk]

theorem get?_ofList_cons (e : String × α) (l : List (String × α)) (k : String) :
    (ofList (e :: l)).get? k = ((ofList l).get? k).or (if k = e.1 then some e.2 else none) := by
  rw [← List.singleton_append, get?_ofList_append]
  exact congrArg _ (get?_insert ..)

theorem get?_ofList_eq_none {l : List (String × α)} {k : String} (h : k ∉ l.map (·.1)) :
    (ofList l).get? k = none := by
  induction l using List.reverseRecOn with
  | nil => rfl
  | append_singleton l e ih =>
    rw [List.map_append, List.mem_append, not_or] at h
    have hk : k ≠ e.1 := fun hk => h.2 (hk ▸ List.mem_cons_self)
    rw [ofList_concat, get?_insert, if_neg hk, ih h.1]

theorem mem_of_get?_ofList {l : List (String × α)} {k : String} {v : α} (h : (ofList l).get? k = some v) :
    (k, v) ∈ l := by
  induction l using List.reverseRecOn with
  | nil => cases h
  | append_singleton l e ih =>
    rw [ofList_concat, get?_insert] at h
    rw [List.mem_append, List.mem_singleton]
    split at h
    · next hk => exact .inr (Prod.ext hk (Option.some.inj h).symm)
    · exact .inl (ih h)

theorem mem_ofList {l : List (String × α)} {k : String} : k ∈ ofList l ↔ k ∈ l.map (·.1) := by
  constructor
  · intro h
    obtain ⟨v, hv⟩ := mem_iff.mp h
    exact List.mem_map.mpr ⟨(k, v), mem_of_get?_ofList hv, rfl⟩
  · intro h
    induction l using List.reverseRecOn with
    | nil => cases h
    | append_singleton l e ih =>
      rw [ofList_concat, mem_insert]
      rw [List.map_append, List.map_singleton, List.mem_append, List.mem_singleton] at h
      exact h.symm.imp_right ih

/-- A key that is given one value only has that value. -/
theorem get?_ofList_iff {l : List (String × α)} {k : String} {v : α}
    (h : ∀ v w, (k, v) ∈ l → (k, w) ∈ l → v = w) : (ofList l).get? k = some v ↔ (k, v) ∈ l := by
  constructor
  · exact mem_of_get?_ofList
  · intro hv
    obtain ⟨w, hw⟩ := mem_iff.mp (mem_ofList.mpr (List.mem_map.mpr ⟨(k, v), hv, rfl⟩))
    rw [hw, h v w hv (mem_of_get?_ofList hw)]

theorem ofList_entries (d : Dict α) : ofList d.entries = d := by
  refine ext_get? fun k => Option.ext fun v => ?_
  rw [← mem_entries_iff d]
  refine get?_ofList_iff fun v w hv hw => ?_
  exact Option.some.inj (((mem_entries_iff ..).mp hv).symm.trans ((mem_entries_iff ..).mp hw))

/-- What holds of the values of a map and of one more value holds of all values after the insertion. -/
theorem forall_values_insert {P : α → Prop} {d : Dict α} {k : String} {v : α} (h : ∀ w ∈ d.values, P w) (hv : P v) :
    ∀ w ∈ (d.insert k v).values, P w := by
  intro w hw
  obtain ⟨j, hj⟩ := mem_values.mp hw
  rw [get?_insert] at hj
  split at hj
  · exact Option.some.inj hj ▸ hv
  · exact h w (mem_values.mpr ⟨j, hj⟩)

/-- Without the entries of a key the map lacks the key. -/
theorem ofList_filter_ne (l : List (String × α)) (k : String) :
    ofList (l.filter (·.1 ≠ k)) = (ofList l).erase k := by
  apply ext_get?
  intro j
  induction l using List.reverseRecOn with
  | nil => simp [ofList, get?_erase]
  | append_singleton l e ih =>
    rw [List.filter_append, get?_ofList_append, ih, ofList_concat, get?_erase, get?_erase, get?_insert]
    by_cases he : e.1 = k
    · by_cases hj : j = k
      · simp [he, hj, ofList]
      · simp [he, hj, ofList]
    · by_cases hj : j = k
      · have hne : j ≠ e.1 := fun h => he (h ▸ hj)
        simp [he, hj, ofList, get?_insert, Ne.symm he]
      · by_cases hje : j = e.1
        · simp [he, hje, ofList, get?_insert]
        · simp [he, hj, hje, ofList, get?_insert]

theorem ofList_map_filter_ne (f : β → String × α) (l : List β) (k : String) :
    ofList ((l.filter fun x => (f x).1 ≠ k).map f) = (ofList (l.map f)).erase k := by
  rw [← ofList_filter_ne, List.filter_map]
  rfl

theorem size_filter_le (d : Dict α) (p : String → α → Bool) : (d.filter p).size ≤ d.size :=
  List.length_filter_le _ _

/-- A map gets smaller when a member is filtered out. -/
theorem size_filter_lt {d : Dict α} {p : String → α → Bool} {k : String} (h : k ∈ d)
    (hn : k ∉ d.filter p) : (d.filter p).size < d.size := by
  obtain ⟨v, hv⟩ := mem_iff.mp h
  rw [size, size, filter]
  apply List.length_filter_lt_length_iff_exists.mpr
  exact ⟨(k, v), (mem_entries_iff ..).mpr hv, fun hp => hn (mem_filter.mpr ⟨v, hv, hp⟩)⟩

end Dict

namespace NameSet

/-- Sets with the same members are equal. -/
theorem ext_mem {s t : NameSet} (h : ∀ a, a ∈ s ↔ a ∈ t) : s = t := by
  apply Dict.ext_get?
  intro a
  have ha := h a
  rw [Dict.mem_iff_isSome, Dict.mem_iff_isSome] at ha
  cases hs : Dict.get? s a with
  | none =>
    rw [hs] at ha
    exact (Option.not_isSome_iff_eq_none.mp fun ht => nomatch ha.mpr ht).symm
  | some _ =>
    rw [hs] at ha
    obtain ⟨_, ht⟩ := Option.isSome_iff_exists.mp (ha.mp rfl)
    exact ht.symm

@[simp] theorem mem_add {s : NameSet} {a b : String} : a ∈ s.add b ↔ a = b ∨ a ∈ s :=
  Dict.mem_insert

@[simp] theorem mem_addAll {s : NameSet} {l : List String} {a : String} :
    a ∈ s.addAll l ↔ a ∈ s ∨ a ∈ l := by
  induction l generalizing s with
  | nil => simp [addAll]
  | cons b l ih =>
    rw [addAll, List.foldl_cons, ← addAll, ih, mem_add, List.mem_cons, or_assoc, or_left_comm]

@[simp] theorem mem_ofList {l : List String} {a : String} : a ∈ ofList l ↔ a ∈ l := by
  rw [ofList, ← addAll, mem_addAll]
  simp

@[simp] theorem mem_toList {s : NameSet} {a : String} : a ∈ s.toList ↔ a ∈ s := Dict.mem_keys

@[simp] theorem mem_filter {s : NameSet} {p : String → Unit → Bool} {a : String} :
    a ∈ Dict.filter p s ↔ a ∈ s ∧ p a () = true := by
  rw [Dict.mem_filter, Dict.mem_iff]
  exact ⟨fun ⟨v, hv, hp⟩ => ⟨⟨v, hv⟩, hp⟩, fun ⟨⟨v, hv⟩, hp⟩ => ⟨v, hv, hp⟩⟩

end NameSet
end Turnstile

/-! Finite maps with text keys. The entries are kept in strictly increasing key order, so two
maps that answer every look-up alike are equal. -/
namespace Turnstile

universe u v

structure Dict (α : Type u) where
  entries : List (String × α)
  sorted : entries.Pairwise (fun a b => a.1 < b.1) := by simp
deriving DecidableEq

namespace Dict
variable {α : Type u} {β : Type v}

def empty : Dict α := ⟨[], .nil⟩

instance : Inhabited (Dict α) := ⟨empty⟩

/-- The value stored at a key. -/
def get? (d : Dict α) (k : String) : Option α :=
  (d.entries.find? (·.1 = k)).map (·.2)

def contains (d : Dict α) (k : String) : Bool := (d.get? k).isSome

def getD (d : Dict α) (k : String) (fallback : α) : α := (d.get? k).getD fallback

def keys (d : Dict α) : List String := d.entries.map (·.1)

def values (d : Dict α) : List α := d.entries.map (·.2)

def size (d : Dict α) : Nat := d.entries.length

def isEmpty (d : Dict α) : Bool := d.entries.isEmpty

def put (k : String) (v : α) : List (String × α) → List (String × α)
  | [] => [(k, v)]
  | e :: r => if k < e.1 then (k, v) :: e :: r else if k = e.1 then (k, v) :: r else e :: put k v r

private theorem mem_put {k : String} {v : α} {l : List (String × α)} {e : String × α}
    (h : e ∈ put k v l) : e = (k, v) ∨ e ∈ l := by
  induction l with
  | nil => simpa [put] using h
  | cons a r ih =>
    simp only [put] at h
    split at h
    · simpa using h
    · split at h
      · rcases List.mem_cons.1 h with h | h
        · exact .inl h
        · exact .inr (List.mem_cons_of_mem _ h)
      · rcases List.mem_cons.1 h with h | h
        · exact .inr (h ▸ List.mem_cons_self)
        · exact (ih h).imp_right (List.mem_cons_of_mem _)

private theorem lt_of_not {a b : String} (h : ¬a < b) (n : a ≠ b) : b < a := by
  rcases Classical.em (b < a) with h' | h'
  · exact h'
  · exact absurd (String.le_antisymm (String.not_lt.1 h') (String.not_lt.1 h)) n

private theorem sorted_put {k : String} {v : α} {l : List (String × α)}
    (h : l.Pairwise (fun a b => a.1 < b.1)) : (put k v l).Pairwise (fun a b => a.1 < b.1) := by
  induction l with
  | nil => simp [put]
  | cons a r ih =>
    obtain ⟨ha, hr⟩ := List.pairwise_cons.1 h
    simp only [put]
    split
    · next hlt =>
      refine List.pairwise_cons.2 ⟨fun b hb => ?_, h⟩
      rcases List.mem_cons.1 hb with rfl | hb
      · exact hlt
      · exact String.lt_trans hlt (ha b hb)
    · split
      · next heq => exact List.pairwise_cons.2 ⟨fun b hb => heq ▸ ha b hb, hr⟩
      · next hnlt hne =>
        refine List.pairwise_cons.2 ⟨fun b hb => ?_, ih hr⟩
        rcases mem_put hb with rfl | hb
        · exact lt_of_not hnlt hne
        · exact ha b hb

/-- The new value replaces the one at the same key, if any. -/
def insert (d : Dict α) (k : String) (v : α) : Dict α :=
  ⟨put k v d.entries, sorted_put d.sorted⟩

def erase (d : Dict α) (k : String) : Dict α :=
  ⟨d.entries.filter (·.1 ≠ k), d.sorted.filter _⟩

/-- Keeps the entries that satisfy the test. -/
def filter (p : String → α → Bool) (d : Dict α) : Dict α :=
  ⟨d.entries.filter (fun e => p e.1 e.2), d.sorted.filter _⟩

def map (f : α → β) (d : Dict α) : Dict β :=
  ⟨d.entries.map (fun e => (e.1, f e.2)), by
    simpa [List.pairwise_map] using d.sorted⟩

/-- Of entries with one key the last one counts. -/
def ofList (l : List (String × α)) : Dict α := l.foldl (fun d e => d.insert e.1 e.2) empty

/-- The entries of the second map win. -/
def union (d e : Dict α) : Dict α := e.entries.foldl (fun d x => d.insert x.1 x.2) d

/-- Applies a function to the value at a key, which starts from `fallback`. -/
def update (d : Dict α) (k : String) (fallback : α) (f : α → α) : Dict α :=
  d.insert k (f (d.getD k fallback))

@[simp] theorem get?_empty (k : String) : (empty : Dict α).get? k = none := rfl

private theorem find?_put_self (k : String) (v : α) (l : List (String × α)) :
    (put k v l).find? (·.1 = k) = some (k, v) := by
  induction l with
  | nil => simp [put]
  | cons a r ih =>
    simp only [put]
    split
    · simp
    · split
      · simp
      · next hne => rw [List.find?_cons_of_neg (by simpa using fun h => hne h.symm), ih]

private theorem find?_put_of_ne {k j : String} (h : j ≠ k) (v : α) (l : List (String × α)) :
    (put k v l).find? (·.1 = j) = l.find? (·.1 = j) := by
  induction l with
  | nil => simp [put, h.symm]
  | cons a r ih =>
    simp only [put]
    split
    · rw [List.find?_cons_of_neg (by simpa using h.symm)]
    · split
      · next heq =>
        rw [List.find?_cons_of_neg (by simpa using h.symm),
          List.find?_cons_of_neg (by simpa [← heq] using h.symm)]
      · simp only [List.find?_cons, ih]

theorem get?_insert (d : Dict α) (k j : String) (v : α) :
    (d.insert k v).get? j = if j = k then some v else d.get? j := by
  split
  · next h => subst h; simp [get?, insert, find?_put_self]
  · next h => simp [get?, insert, find?_put_of_ne h]

theorem get?_erase (d : Dict α) (k j : String) :
    (d.erase k).get? j = if j = k then none else d.get? j := by
  simp only [get?, erase]
  split
  · next h =>
    subst h
    simp [List.find?_filter]
  · next h =>
    rw [List.find?_filter]
    congr 2
    funext e
    by_cases he : e.1 = j <;> simp [he, h]

theorem mem_entries_iff (d : Dict α) (k : String) (v : α) :
    (k, v) ∈ d.entries ↔ d.get? k = some v := by
  obtain ⟨l, hl⟩ := d
  simp only [get?]
  induction l with
  | nil => simp
  | cons a r ih =>
    obtain ⟨ha, hr⟩ := List.pairwise_cons.1 hl
    by_cases h : a.1 = k
    · subst h
      have : ∀ v, (a.1, v) ∉ r := fun v hv => String.lt_irrefl _ (ha (a.1, v) hv)
      simp only [List.mem_cons, this, or_false, decide_true, List.find?_cons_of_pos,
        Option.map_some, Option.some.injEq]
      exact ⟨fun h => h ▸ rfl, fun h => h ▸ rfl⟩
    · rw [List.find?_cons_of_neg (by simpa using h), ← ih hr, List.mem_cons]
      exact ⟨fun h' => h'.resolve_left (fun h' => h (h' ▸ rfl)), .inr⟩

/-- Maps that answer every look-up alike are equal. -/
theorem ext_get? {d e : Dict α} (h : ∀ k, d.get? k = e.get? k) : d = e := by
  have hm : ∀ x, x ∈ d.entries ↔ x ∈ e.entries := fun x => by
    rw [d.mem_entries_iff x.1 x.2, e.mem_entries_iff x.1 x.2, h]
  obtain ⟨l, hl⟩ := d
  obtain ⟨m, hm'⟩ := e
  congr
  clear h
  induction l generalizing m with
  | nil =>
    cases m with
    | nil => rfl
    | cons b s => exact absurd ((hm b).2 List.mem_cons_self) (by simp)
  | cons a r ih =>
    cases m with
    | nil => exact absurd ((hm a).1 List.mem_cons_self) (by simp)
    | cons b s =>
      obtain ⟨ha, hr⟩ := List.pairwise_cons.1 hl
      obtain ⟨hb, hs⟩ := List.pairwise_cons.1 hm'
      have hab : a = b := by
        rcases List.mem_cons.1 ((hm a).1 List.mem_cons_self) with h | h
        · exact h
        · rcases List.mem_cons.1 ((hm b).2 List.mem_cons_self) with h' | h'
          · exact h'.symm
          · exact absurd (ha _ h') (String.lt_asymm (hb _ h))
      subst hab
      congr 1
      refine ih hr s hs fun x => ⟨fun hx => ?_, fun hx => ?_⟩
      · rcases List.mem_cons.1 ((hm x).1 (List.mem_cons_of_mem _ hx)) with rfl | h
        · exact absurd (ha _ hx) (String.lt_irrefl _)
        · exact h
      · rcases List.mem_cons.1 ((hm x).2 (List.mem_cons_of_mem _ hx)) with rfl | h
        · exact absurd (hb _ hx) (String.lt_irrefl _)
        · exact h

end Dict

/-- Finite sets of names. -/
abbrev NameSet := Dict Unit

namespace NameSet

def add (s : NameSet) (name : String) : NameSet := Dict.insert s name ()

/-- The members in increasing order. -/
def toList (s : NameSet) : List String := Dict.keys s

def ofList (l : List String) : NameSet := l.foldl add .empty

def addAll (s : NameSet) (l : List String) : NameSet := l.foldl add s

end NameSet
end Turnstile

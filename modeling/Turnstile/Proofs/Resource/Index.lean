import Turnstile.Proofs.Resource.PrefixTree
import Turnstile.Resource.Index

/-! A resource index finds an identifier for a resource exactly if something covers the resource that
the identifier was inserted with and not removed again. -/
namespace Turnstile

namespace ResourceIndex

section Filed
variable {d : Dict NameSet} {key k id i : String}

/-- The identifier is in the set at the key. -/
def Filed (d : Dict NameSet) (key id : String) : Prop := ∃ s, d.get? key = some s ∧ id ∈ s

/-- No set is kept for a key without identifiers. -/
def Trim (d : Dict NameSet) : Prop := ∀ key s, d.get? key = some s → ∃ id, id ∈ s

theorem filed_addTo : Filed (addTo d key id) k i ↔ (k = key ∧ i = id) ∨ Filed d k i := by
  simp only [Filed, addTo, Dict.get?_update]
  by_cases hk : k = key
  · subst hk
    simp only [if_true, Option.some.injEq, exists_eq_left', NameSet.mem_add, true_and]
    refine or_congr_right ?_
    cases d.get? k <;> simp
  · simp only [hk, if_false, false_and, false_or]

theorem trim_addTo (h : Trim d) : Trim (addTo d key id) := by
  intro k s hs
  rw [addTo, Dict.get?_update] at hs
  by_cases hk : k = key
  · rw [if_pos hk] at hs
    obtain rfl := Option.some.inj hs
    exact ⟨id, NameSet.mem_add.mpr (.inl rfl)⟩
  · rw [if_neg hk] at hs
    exact h k s hs

/-- A drop removes a key, or the identifier from the set at the key. -/
private theorem get?_dropFrom (d : Dict NameSet) (key id k : String) :
    (dropFrom d key id).get? k = if k = key then
      (d.get? key).bind fun s => if (Dict.erase s id).isEmpty then none else some (Dict.erase s id)
    else d.get? k := by
  rw [dropFrom]
  cases hd : d.get? key with
  | none =>
    by_cases hk : k = key
    · subst hk
      rw [if_pos rfl, Option.bind_none]
      exact hd
    · rw [if_neg hk]
  | some s =>
    rw [Option.bind_some]
    dsimp only
    by_cases he : (Dict.erase s id).isEmpty = true
    · rw [if_pos he, if_pos he, Dict.get?_erase]
    · rw [if_neg he, if_neg he, Dict.get?_insert]

theorem filed_dropFrom : Filed (dropFrom d key id) k i ↔ Filed d k i ∧ ¬ (k = key ∧ i = id) := by
  simp only [Filed, get?_dropFrom]
  by_cases hk : k = key
  · subst hk
    cases d.get? k with
    | none => simp
    | some s =>
      simp only [if_true, Option.bind_some, Option.some.injEq, exists_eq_left', true_and]
      by_cases he : (Dict.erase s id).isEmpty = true
      · have hnone : ¬ (i ≠ id ∧ i ∈ s) := fun h => Dict.isEmpty_iff.mp he i (Dict.mem_erase.mpr h)
        simp only [he, if_true, reduceCtorEq, false_and, exists_false, false_iff]
        exact fun h => hnone ⟨h.2, h.1⟩
      · simp only [he, Bool.false_eq_true, if_false, Option.some.injEq, exists_eq_left', Dict.mem_erase]
        exact and_comm
  · simp only [hk, if_false, false_and, not_false_eq_true, and_true]

theorem trim_dropFrom (h : Trim d) : Trim (dropFrom d key id) := by
  intro k s hs
  rw [get?_dropFrom] at hs
  by_cases hk : k = key
  · rw [if_pos hk] at hs
    obtain ⟨s', -, hs⟩ := Option.bind_eq_some_iff.mp hs
    by_cases he : (Dict.erase s' id).isEmpty = true
    · rw [if_pos he] at hs
      cases hs
    · rw [if_neg he] at hs
      obtain rfl := Option.some.inj hs
      exact Dict.isEmpty_eq_false_iff.mp (eq_false_of_ne_true he)
  · rw [if_neg hk] at hs
    exact h k s hs

theorem Trim.isEmpty_iff (h : Trim d) : d.isEmpty = true ↔ ∀ k i, ¬ Filed d k i := by
  rw [Dict.isEmpty_iff]
  constructor
  · rintro hk k i ⟨s, hs, -⟩
    exact hk k (Dict.mem_of_get? hs)
  · intro hnone k hk
    obtain ⟨s, hs⟩ := Dict.mem_iff.mp hk
    obtain ⟨i, hi⟩ := h k s hs
    exact hnone k i ⟨s, hs, hi⟩

end Filed

theorem mem_unions {sets : List NameSet} {i : String} : i ∈ unions sets ↔ ∃ s ∈ sets, i ∈ s := by
  have key (start : NameSet) : i ∈ sets.foldl Dict.union start ↔ i ∈ start ∨ ∃ s ∈ sets, i ∈ s := by
    induction sets generalizing start with
    | nil => simp
    | cons s sets ih =>
      rw [List.foldl_cons, ih, Dict.mem_union, or_assoc]
      simp only [List.mem_cons, exists_eq_or_imp]
  exact (key .empty).trans (by simp)

/-- Where an index looks for what covers a resource. -/
inductive Bucket where
  | any
  | exact (name : String)
  | starts (literal : List Char)
  | ends (literal : List Char)
  | generic (e : String)

/-- What is in the bucket covers the resource. -/
def Bucket.Covers (resource : String) : Bucket → Prop
  | .any => True
  | .exact name => name = resource
  | .starts literal => literal <+: resource.toList
  | .ends literal => literal <:+ resource.toList
  | .generic e => expressionMatches e resource = true

instance (resource : String) : (b : Bucket) → Decidable (b.Covers resource)
  | .any => inferInstanceAs (Decidable True)
  | .exact _ => inferInstanceAs (Decidable (_ = _))
  | .starts _ => inferInstanceAs (Decidable (_ <+: _))
  | .ends _ => inferInstanceAs (Decidable (_ <:+ _))
  | .generic _ => inferInstanceAs (Decidable (_ = _))

end ResourceIndex

open ResourceIndex (Bucket)

def Coverage.bucket : Coverage → Bucket
  | .everything => .any
  | .resource name => .exact name
  | .expression e =>
    match ResourcePattern.classify e with
    | .startsWith literal => .starts literal
    | .endsWith literal => .ends literal
    | .everything => .any
    | .generic => .generic e

namespace ResourceIndex
variable {x : ResourceIndex} {b : Bucket} {c : Coverage} {id i resource : String}

/-- The identifier is in the bucket. -/
def Holds (x : ResourceIndex) (id : String) : Bucket → Prop
  | .any => id ∈ x.any
  | .exact name => Filed x.exact name id
  | .starts literal => x.starts.Stores id literal
  | .ends literal => x.ends.Stores id literal.reverse
  | .generic e => Filed x.generic e id

structure Sound (x : ResourceIndex) : Prop where
  exact : Trim x.exact
  starts : x.starts.Sound
  ends : x.ends.Sound
  generic : Trim x.generic

theorem sound_empty : Sound {} where
  exact _ _ h := by cases h
  starts := PrefixTree.sound_empty
  ends := PrefixTree.sound_empty
  generic _ _ h := by cases h

theorem not_holds_empty : ¬ Holds {} i b := by
  cases b with
  | any => exact Dict.not_mem_empty i
  | exact name => exact fun ⟨_, h, _⟩ => by cases h
  | starts literal => exact PrefixTree.not_stores_empty
  | ends literal => exact PrefixTree.not_stores_empty
  | generic e => exact fun ⟨_, h, _⟩ => by cases h

theorem Sound.insert (h : x.Sound) : (x.insert c id).Sound := by
  cases c with
  | everything => exact ⟨h.exact, h.starts, h.ends, h.generic⟩
  | resource name => exact ⟨trim_addTo h.exact, h.starts, h.ends, h.generic⟩
  | expression e =>
    rw [ResourceIndex.insert]
    cases ResourcePattern.classify e with
    | startsWith literal => exact ⟨h.exact, h.starts.insert, h.ends, h.generic⟩
    | endsWith literal => exact ⟨h.exact, h.starts, h.ends.insert, h.generic⟩
    | everything => exact ⟨h.exact, h.starts, h.ends, h.generic⟩
    | generic => exact ⟨h.exact, h.starts, h.ends, trim_addTo h.generic⟩

theorem Sound.remove (h : x.Sound) : (x.remove c id).Sound := by
  cases c with
  | everything => exact ⟨h.exact, h.starts, h.ends, h.generic⟩
  | resource name => exact ⟨trim_dropFrom h.exact, h.starts, h.ends, h.generic⟩
  | expression e =>
    rw [ResourceIndex.remove]
    cases ResourcePattern.classify e with
    | startsWith literal => exact ⟨h.exact, h.starts.remove, h.ends, h.generic⟩
    | endsWith literal => exact ⟨h.exact, h.starts, h.ends.remove, h.generic⟩
    | everything => exact ⟨h.exact, h.starts, h.ends, h.generic⟩
    | generic => exact ⟨h.exact, h.starts, h.ends, trim_dropFrom h.generic⟩

theorem holds_insert : (x.insert c id).Holds i b ↔ (b = c.bucket ∧ i = id) ∨ x.Holds i b := by
  cases c with
  | everything => cases b <;> simp [ResourceIndex.insert, Holds, Coverage.bucket]
  | resource name => cases b <;> simp [ResourceIndex.insert, Holds, Coverage.bucket, filed_addTo]
  | expression e =>
    rw [ResourceIndex.insert, Coverage.bucket]
    cases ResourcePattern.classify e with
    | startsWith literal => cases b <;> simp [Holds, PrefixTree.stores_insert]
    | endsWith literal => cases b <;> simp [Holds, PrefixTree.stores_insert]
    | everything => cases b <;> simp [Holds]
    | generic => cases b <;> simp [Holds, filed_addTo]

theorem Sound.holds_remove (h : x.Sound) :
    (x.remove c id).Holds i b ↔ x.Holds i b ∧ ¬ (b = c.bucket ∧ i = id) := by
  cases c with
  | everything => cases b <;> simp [ResourceIndex.remove, Holds, Coverage.bucket, and_comm]
  | resource name => cases b <;> simp [ResourceIndex.remove, Holds, Coverage.bucket, filed_dropFrom]
  | expression e =>
    rw [ResourceIndex.remove, Coverage.bucket]
    cases ResourcePattern.classify e with
    | startsWith literal => cases b <;> simp [Holds, h.starts.stores_remove]
    | endsWith literal => cases b <;> simp [Holds, h.ends.stores_remove]
    | everything => cases b <;> simp [Holds, and_comm]
    | generic => cases b <;> simp [Holds, filed_dropFrom]

private theorem exists_bucket_iff {P : Bucket → Prop} : (∃ b, P b) ↔
    P .any ∨ (∃ name, P (.exact name)) ∨ (∃ literal, P (.starts literal)) ∨
      (∃ literal, P (.ends literal)) ∨ ∃ e, P (.generic e) := by
  constructor
  · rintro ⟨_ | name | literal | literal | e, h⟩
    · exact .inl h
    · exact .inr (.inl ⟨name, h⟩)
    · exact .inr (.inr (.inl ⟨literal, h⟩))
    · exact .inr (.inr (.inr (.inl ⟨literal, h⟩)))
    · exact .inr (.inr (.inr (.inr ⟨e, h⟩)))
  · rintro (h | ⟨name, h⟩ | ⟨literal, h⟩ | ⟨literal, h⟩ | ⟨e, h⟩) <;> exact ⟨_, h⟩

private theorem exists_get?_iff : (∃ s ∈ (x.exact.get? resource).toList, i ∈ s) ↔
    ∃ name, Filed x.exact name i ∧ name = resource := by
  simp only [Option.mem_toList, Filed, exists_eq_right]

private theorem exists_generic_iff :
    (∃ s ∈ x.generic.entries.filterMap fun e =>
      if expressionMatches e.1 resource then some e.2 else none, i ∈ s) ↔
    ∃ e, Filed x.generic e i ∧ expressionMatches e resource = true := by
  simp only [List.mem_filterMap, Filed, ← Dict.mem_entries_iff]
  constructor
  · rintro ⟨s, ⟨⟨e, s'⟩, he, hs⟩, hi⟩
    by_cases hm : expressionMatches e resource = true
    · rw [if_pos hm] at hs
      obtain rfl := Option.some.inj hs
      exact ⟨e, ⟨_, he, hi⟩, hm⟩
    · rw [if_neg hm] at hs
      cases hs
  · rintro ⟨e, ⟨s, he, hi⟩, hm⟩
    exact ⟨s, ⟨_, he, if_pos hm⟩, hi⟩

/-- Suffixes are stored back to front. -/
private theorem exists_reverse_iff {text : List Char} :
    (∃ k, k <+: text.reverse ∧ x.ends.Stores i k) ↔
      ∃ literal, x.ends.Stores i literal.reverse ∧ literal <:+ text := by
  constructor
  · rintro ⟨k, hk, hs⟩
    exact ⟨k.reverse, by rwa [List.reverse_reverse], List.reverse_prefix.mp (by rwa [List.reverse_reverse])⟩
  · rintro ⟨literal, hs, hl⟩
    exact ⟨literal.reverse, List.reverse_prefix.mpr hl, hs⟩

/-- A look-up finds what some bucket holds that covers the resource. -/
theorem Sound.mem_matching (h : x.Sound) :
    i ∈ x.matching resource ↔ ∃ b : Bucket, x.Holds i b ∧ b.Covers resource := by
  rw [matching, mem_unions, exists_bucket_iff]
  simp only [List.cons_append, List.mem_cons, List.mem_append, or_and_right, exists_or, exists_eq_left,
    h.starts.exists_along_iff, h.ends.exists_along_iff, exists_get?_iff, exists_generic_iff,
    exists_reverse_iff, Holds, Bucket.Covers, and_true, or_assoc]
  simp only [and_comm]

/-- Without a resource everything is found. -/
theorem mem_all : i ∈ x.all ↔ ∃ b, x.Holds i b := by
  have hvalues (d : Dict NameSet) : (∃ s ∈ d.values, i ∈ s) ↔ ∃ key, Filed d key i := by
    simp only [Dict.mem_values, Filed]
    exact ⟨fun ⟨s, ⟨key, hs⟩, hi⟩ => ⟨key, s, hs, hi⟩, fun ⟨key, s, hs, hi⟩ => ⟨s, ⟨key, hs⟩, hi⟩⟩
  have hreverse : (∃ k, x.ends.Stores i k) ↔
      ∃ literal : List Char, x.ends.Stores i literal.reverse :=
    ⟨fun ⟨k, hk⟩ => ⟨k.reverse, by rwa [List.reverse_reverse]⟩, fun ⟨literal, h⟩ => ⟨_, h⟩⟩
  rw [all, mem_unions, exists_bucket_iff]
  simp only [List.cons_append, List.mem_cons, List.mem_append, or_and_right, exists_or, exists_eq_left,
    hvalues, PrefixTree.exists_all_iff, hreverse, Holds, or_assoc]

/-- A look-up for a resource, or for none, finds what some bucket holds that covers it. -/
theorem Sound.mem_found (h : x.Sound) (resource : Option String) :
    i ∈ resource.elim x.all x.matching ↔
      ∃ b : Bucket, x.Holds i b ∧ ∀ name ∈ resource, b.Covers name := by
  cases resource with
  | none => simpa using mem_all
  | some name => simpa using h.mem_matching

/-- An index that looks empty holds nothing. -/
theorem Sound.isEmpty_iff (h : x.Sound) : x.isEmpty = true ↔ ∀ i b, ¬ x.Holds i b := by
  simp only [isEmpty, Bool.and_eq_true, h.exact.isEmpty_iff, h.starts.isEmpty_iff,
    h.ends.isEmpty_iff, h.generic.isEmpty_iff, Dict.isEmpty_iff]
  constructor
  · rintro ⟨⟨⟨⟨hexact, hstarts⟩, hends⟩, hgeneric⟩, hany⟩ i (_ | name | literal | literal | e)
    · exact hany i
    · exact hexact name i
    · exact hstarts i literal
    · exact hends i literal.reverse
    · exact hgeneric e i
  · intro hnone
    refine ⟨⟨⟨⟨?_, ?_⟩, ?_⟩, ?_⟩, ?_⟩
    · exact fun name i => hnone i (.exact name)
    · exact fun i literal => hnone i (.starts literal)
    · exact fun i literal hs => hnone i (.ends literal.reverse) (by simpa [Holds] using hs)
    · exact fun e i => hnone i (.generic e)
    · exact fun i => hnone i .any

end ResourceIndex
end Turnstile

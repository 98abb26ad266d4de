import Turnstile.Policy.Cache
import Turnstile.Proofs.Resource.Index

/-! A rule cache finds exactly the entries that it would find by looking through all of them. -/
namespace Turnstile

open ResourceIndex (Bucket)

/-- Every rule covers something. -/
class CoveringRule (α : Type) [Rule α] : Prop where
  coverage_ne_nil : ∀ a : α, Rule.coverage a ≠ []

theorem mem_distinct {l : List String} {q : String} : q ∈ distinct l ↔ q ∈ l := by
  have key (seen : List String) : q ∈ l.foldl (fun seen a =>
      if seen.contains a then seen else a :: seen) seen ↔ q ∈ seen ∨ q ∈ l := by
    induction l generalizing seen with
    | nil => simp
    | cons a l ih =>
      rw [List.foldl_cons, ih, List.mem_cons]
      by_cases ha : seen.contains a = true
      · rw [if_pos ha]
        have ha := List.contains_iff_mem.mp ha
        constructor
        · exact fun h => h.imp_right .inr
        · rintro (h | rfl | h)
          · exact .inl h
          · exact .inl ha
          · exact .inr h
      · rw [if_neg ha, List.mem_cons]
        tauto
  rw [distinct, List.mem_reverse, key]
  simp

theorem distinct_eq_nil_iff {l : List String} : distinct l = [] ↔ l = [] := by
  simp only [List.eq_nil_iff_forall_not_mem, mem_distinct]

theorem Permission.coverage_ne_nil (p : Permission) : p.coverage ≠ [] := by
  rw [coverage, coversEverything]
  by_cases hr : p.resource.isEmpty = true
  · by_cases he : p.expression.isEmpty = true <;> simp [hr, he]
  · simp [hr]

instance : CoveringRule Policy where
  coverage_ne_nil p := by
    change (if p.permissions.isEmpty then _ else _) ≠ _
    cases hp : p.permissions with
    | nil => simp
    | cons q l => simp [q.coverage_ne_nil]

instance : CoveringRule RolePolicy where
  coverage_ne_nil p := by
    change (if p.coversEverything then _ else _) ≠ _
    rw [RolePolicy.coversEverything]
    cases p.resources <;> cases p.expressions <;> simp

namespace RuleCache
variable {α : Type} [Rule α]

/-- The buckets that an entry is found in. -/
def buckets (a : α) : List Bucket := (Rule.coverage a).map Coverage.bucket

section Cover
variable {a : α} {x : ResourceIndex} {i : String} {b : Bucket}

private theorem holds_foldl_insert {cs : List Coverage} {id : String} {x : ResourceIndex} :
    (cs.foldl (fun x c => x.insert c id) x).Holds i b ↔
      (i = id ∧ b ∈ cs.map Coverage.bucket) ∨ x.Holds i b := by
  induction cs generalizing x with
  | nil => simp
  | cons c cs ih =>
    rw [List.foldl_cons, ih, ResourceIndex.holds_insert, List.map_cons, List.mem_cons]
    tauto

theorem holds_coverBy : (coverBy a x).Holds i b ↔ (i = Rule.id a ∧ b ∈ buckets a) ∨ x.Holds i b :=
  holds_foldl_insert

theorem sound_coverBy (h : x.Sound) : (coverBy a x).Sound :=
  List.foldlRecOn (motive := ResourceIndex.Sound) _ _ h fun _ h _ _ => h.insert

private theorem holds_foldl_remove {cs : List Coverage} {id : String} {x : ResourceIndex} (h : x.Sound) :
    (cs.foldl (fun x c => x.remove c id) x).Holds i b ↔
      x.Holds i b ∧ ¬ (i = id ∧ b ∈ cs.map Coverage.bucket) := by
  induction cs generalizing x with
  | nil => simp
  | cons c cs ih =>
    rw [List.foldl_cons, ih h.remove, h.holds_remove, List.map_cons, List.mem_cons]
    tauto

theorem holds_uncoverBy (h : x.Sound) :
    (uncoverBy a x).Holds i b ↔ x.Holds i b ∧ ¬ (i = Rule.id a ∧ b ∈ buckets a) :=
  holds_foldl_remove h

theorem sound_uncoverBy (h : x.Sound) : (uncoverBy a x).Sound :=
  List.foldlRecOn (motive := ResourceIndex.Sound) _ _ h fun _ h _ _ => h.remove

end Cover

section Principals
variable {a : α} {d : Dict ResourceIndex} {p q i : String} {b : Bucket} {ps : List String}

/-- What the entries of a principal cover; there is an index for each principal with entries. -/
def HoldsAt (d : Dict ResourceIndex) (principal id : String) (b : Bucket) : Prop :=
  ∃ x, d.get? principal = some x ∧ x.Holds id b

/-- Every index is in order, and not empty. -/
def Tidy (d : Dict ResourceIndex) : Prop :=
  ∀ p x, d.get? p = some x → x.Sound ∧ ∃ i b, x.Holds i b

private theorem holdsAt_update :
    HoldsAt (d.update p {} (coverBy a)) q i b ↔
      (q = p ∧ i = Rule.id a ∧ b ∈ buckets a) ∨ HoldsAt d q i b := by
  simp only [HoldsAt, Dict.get?_update]
  by_cases hq : q = p
  · subst hq
    simp only [if_true, Option.some.injEq, exists_eq_left', holds_coverBy, true_and]
    refine or_congr_right ?_
    cases d.get? q with
    | none => simpa using ResourceIndex.not_holds_empty
    | some x => simp
  · simp only [hq, if_false, false_and, false_or]

private theorem tidy_update [CoveringRule α] (h : Tidy d) : Tidy (d.update p {} (coverBy a)) := by
  intro q x hx
  rw [Dict.get?_update] at hx
  by_cases hq : q = p
  · rw [if_pos hq] at hx
    obtain rfl := Option.some.inj hx
    obtain ⟨c, hc⟩ := List.exists_mem_of_ne_nil _ (CoveringRule.coverage_ne_nil a)
    refine ⟨sound_coverBy ?_, _, c.bucket, holds_coverBy.mpr (.inl ⟨rfl, List.mem_map_of_mem hc⟩)⟩
    cases hd : d.get? p with
    | none => exact ResourceIndex.sound_empty
    | some x => exact (h p x hd).1
  · rw [if_neg hq] at hx
    exact h q x hx

private theorem holdsAt_link : HoldsAt (ps.foldl (fun d p => d.update p {} (coverBy a)) d) q i b ↔
    (q ∈ ps ∧ i = Rule.id a ∧ b ∈ buckets a) ∨ HoldsAt d q i b := by
  induction ps generalizing d with
  | nil => simp
  | cons p ps ih =>
    rw [List.foldl_cons, ih, holdsAt_update, List.mem_cons]
    tauto

private theorem tidy_link [CoveringRule α] (h : Tidy d) :
    Tidy (ps.foldl (fun d p => d.update p {} (coverBy a)) d) :=
  List.foldlRecOn (motive := Tidy) _ _ h fun _ h _ _ => tidy_update h

private theorem get?_uncoverAt (a : α) (d : Dict ResourceIndex) (p q : String) :
    (uncoverAt a d p).get? q = if q = p then
      (d.get? p).bind fun x => if (uncoverBy a x).isEmpty then none else some (uncoverBy a x)
    else d.get? q := by
  rw [uncoverAt]
  cases hd : d.get? p with
  | none =>
    by_cases hq : q = p
    · rw [if_pos hq, Option.bind_none, hq]
      exact hd
    · rw [if_neg hq]
  | some x =>
    rw [Option.bind_some]
    dsimp only
    by_cases he : (uncoverBy a x).isEmpty = true
    · rw [if_pos he, if_pos he, Dict.get?_erase]
    · rw [if_neg he, if_neg he, Dict.get?_insert]

private theorem holdsAt_uncoverAt (h : Tidy d) : HoldsAt (uncoverAt a d p) q i b ↔
    HoldsAt d q i b ∧ ¬ (q = p ∧ i = Rule.id a ∧ b ∈ buckets a) := by
  simp only [HoldsAt, get?_uncoverAt]
  by_cases hq : q = p
  · subst hq
    cases hd : d.get? q with
    | none => simp
    | some x =>
      have hx := (h q x hd).1
      simp only [if_true, Option.bind_some, Option.some.injEq, exists_eq_left', true_and,
        ← holds_uncoverBy hx]
      by_cases he : (uncoverBy a x).isEmpty = true
      · have hnone := (sound_uncoverBy hx).isEmpty_iff.mp he i b
        simp only [he, if_true, reduceCtorEq, false_and, exists_false, hnone]
      · simp only [he, Bool.false_eq_true, if_false, Option.some.injEq, exists_eq_left']
  · simp only [hq, if_false, false_and, not_false_eq_true, and_true]

private theorem tidy_uncoverAt (h : Tidy d) : Tidy (uncoverAt a d p) := by
  intro q x hx
  rw [get?_uncoverAt] at hx
  by_cases hq : q = p
  · rw [if_pos hq] at hx
    obtain ⟨x', hd, hx⟩ := Option.bind_eq_some_iff.mp hx
    have hs := sound_uncoverBy (a := a) (h p x' hd).1
    by_cases he : (uncoverBy a x').isEmpty = true
    · rw [if_pos he] at hx
      cases hx
    · rw [if_neg he] at hx
      obtain rfl := Option.some.inj hx
      refine ⟨hs, Classical.byContradiction fun hnone => he (hs.isEmpty_iff.mpr fun i b hi => ?_)⟩
      exact hnone ⟨i, b, hi⟩
  · rw [if_neg hq] at hx
    exact h q x hx

private theorem tidy_unlink (h : Tidy d) : Tidy (ps.foldl (uncoverAt a) d) :=
  List.foldlRecOn (motive := Tidy) _ _ h fun _ h _ _ => tidy_uncoverAt h

private theorem holdsAt_unlink (h : Tidy d) : HoldsAt (ps.foldl (uncoverAt a) d) q i b ↔
    HoldsAt d q i b ∧ ¬ (q ∈ ps ∧ i = Rule.id a ∧ b ∈ buckets a) := by
  induction ps generalizing d with
  | nil => simp
  | cons p ps ih =>
    rw [List.foldl_cons, ih (tidy_uncoverAt h), holdsAt_uncoverAt h, List.mem_cons]
    tauto

end Principals

/-- The indexes hold the live entries and nothing else. -/
structure Sound (c : RuleCache α) : Prop where
  ids : ∀ id a, c.entries.get? id = some a → Rule.id a = id
  everyone : c.forEveryone.Sound
  principals : Tidy c.byPrincipal
  holds : ∀ i b, c.forEveryone.Holds i b ↔
    ∃ a, c.entries.get? i = some a ∧ Rule.principals a = [] ∧ b ∈ buckets a
  holdsAt : ∀ p i b, HoldsAt c.byPrincipal p i b ↔
    ∃ a, c.entries.get? i = some a ∧ p ∈ Rule.principals a ∧ b ∈ buckets a

theorem sound_empty : (empty : RuleCache α).Sound where
  ids _ _ h := by cases h
  everyone := ResourceIndex.sound_empty
  principals _ _ h := by cases h
  holds i b := by
    refine iff_of_false ResourceIndex.not_holds_empty ?_
    rintro ⟨_, h, -⟩
    cases h
  holdsAt p i b := by
    refine iff_of_false ?_ ?_
    · rintro ⟨_, h, -⟩
      cases h
    · rintro ⟨_, h, -⟩
      cases h

section Update
variable {c : RuleCache α} {a : α} {id : String}

@[simp] theorem entries_unlink : (c.unlink a).entries = c.entries := by
  rw [unlink]
  split <;> rfl

@[simp] theorem conditions_unlink : (c.unlink a).conditions = c.conditions := by
  rw [unlink]
  split <;> rfl

@[simp] theorem entries_link : (c.link a).entries = c.entries := by
  rw [link]
  split <;> rfl

@[simp] theorem conditions_link : (c.link a).conditions = c.conditions := by
  rw [link]
  split <;> rfl

private theorem byPrincipal_unlink :
    (c.unlink a).byPrincipal = (Rule.principals a).foldl (uncoverAt a) c.byPrincipal := by
  rw [unlink]
  split
  · next h => rw [h, List.foldl_nil]
  · rfl

private theorem forEveryone_unlink : (c.unlink a).forEveryone =
    if Rule.principals a = [] then uncoverBy a c.forEveryone else c.forEveryone := by
  rw [unlink]
  split
  · next h => rw [if_pos h]
  · next h => rw [if_neg h]

private theorem byPrincipal_link : (c.link a).byPrincipal =
    (Rule.principals a).foldl (fun d p => d.update p {} (coverBy a)) c.byPrincipal := by
  rw [link]
  split
  · next h => rw [h, List.foldl_nil]
  · rfl

private theorem forEveryone_link : (c.link a).forEveryone =
    if Rule.principals a = [] then coverBy a c.forEveryone else c.forEveryone := by
  rw [link]
  split
  · next h => rw [if_pos h]
  · next h => rw [if_neg h]

/-- Removing an identifier removes its entry only. -/
theorem get?_entries_remove (c : RuleCache α) (id i : String) :
    (c.remove id).entries.get? i = if i = id then none else c.entries.get? i := by
  rw [remove]
  cases h : c.entries.get? id with
  | none =>
    by_cases hi : i = id
    · rw [if_pos hi, hi]
      exact h
    · rw [if_neg hi]
  | some a => rw [entries_unlink, Dict.get?_erase]

theorem get?_entries_add (c : RuleCache α) (a : α) (condition : Option CompiledCondition) (i : String) :
    (c.add a condition).entries.get? i = if i = Rule.id a then some a else c.entries.get? i := by
  change (Dict.insert (link (c.remove (Rule.id a)) a).entries (Rule.id a) a).get? i = _
  rw [Dict.get?_insert, entries_link, get?_entries_remove]
  by_cases hi : i = Rule.id a
  · rw [if_pos hi, if_pos hi]
  · rw [if_neg hi, if_neg hi, if_neg hi]

section Found
variable {entries : Dict α} {i : String} {b : Bucket}

/-- An entry that is removed is not found any more. -/
private theorem found_erase (h : entries.get? id = some a) (P : α → Prop) :
    (∃ a', (entries.erase id).get? i = some a' ∧ P a' ∧ b ∈ buckets a') ↔
      (∃ a', entries.get? i = some a' ∧ P a' ∧ b ∈ buckets a') ∧
        ¬ (P a ∧ i = id ∧ b ∈ buckets a) := by
  simp only [Dict.get?_erase]
  by_cases hi : i = id
  · subst hi
    simp only [if_true, h, Option.some.injEq, exists_eq_left', reduceCtorEq, false_and,
      exists_false, true_and, and_not_self_iff]
  · simp only [hi, if_false, false_and, and_false, not_false_eq_true, and_true]

private theorem found_insert (h : entries.get? id = none) (P : α → Prop) :
    (∃ a', (entries.insert id a).get? i = some a' ∧ P a' ∧ b ∈ buckets a') ↔
      (P a ∧ i = id ∧ b ∈ buckets a) ∨
        ∃ a', entries.get? i = some a' ∧ P a' ∧ b ∈ buckets a' := by
  simp only [Dict.get?_insert]
  by_cases hi : i = id
  · subst hi
    simp only [if_true, h, Option.some.injEq, exists_eq_left', reduceCtorEq, false_and,
      exists_false, or_false, true_and]
  · simp only [hi, if_false, false_and, and_false, false_or]

end Found

theorem Sound.remove (h : c.Sound) (id : String) : (c.remove id).Sound := by
  rw [RuleCache.remove]
  cases hid : c.entries.get? id with
  | none => exact h
  | some a =>
    obtain rfl := h.ids id a hid
    constructor
    · intro i a' hi
      rw [entries_unlink, Dict.get?_erase] at hi
      by_cases hk : i = Rule.id a
      · rw [if_pos hk] at hi
        cases hi
      · rw [if_neg hk] at hi
        exact h.ids i a' hi
    · rw [forEveryone_unlink]
      split
      · exact sound_uncoverBy h.everyone
      · exact h.everyone
    · rw [byPrincipal_unlink]
      exact tidy_unlink h.principals
    · intro i b
      rw [entries_unlink, found_erase hid, ← h.holds, forEveryone_unlink]
      by_cases hp : Rule.principals a = []
      · rw [if_pos hp, holds_uncoverBy h.everyone, eq_true hp, true_and]
      · rw [if_neg hp, eq_false hp, false_and, not_false_eq_true, and_true]
    · intro p i b
      rw [entries_unlink, found_erase hid, ← h.holdsAt, byPrincipal_unlink]
      exact holdsAt_unlink h.principals

theorem Sound.add [CoveringRule α] (h : c.Sound) (a : α) (condition : Option CompiledCondition) :
    (c.add a condition).Sound := by
  have hr := h.remove (Rule.id a)
  have hid : (c.remove (Rule.id a)).entries.get? (Rule.id a) = none := by
    rw [get?_entries_remove, if_pos rfl]
  have hentries : (c.add a condition).entries = (c.remove (Rule.id a)).entries.insert (Rule.id a) a :=
    congrArg (Dict.insert · (Rule.id a) a) entries_link
  have heveryone : (c.add a condition).forEveryone = ((c.remove (Rule.id a)).link a).forEveryone := rfl
  have hprincipals : (c.add a condition).byPrincipal = ((c.remove (Rule.id a)).link a).byPrincipal :=
    rfl
  constructor
  · intro i a' hi
    rw [hentries, Dict.get?_insert] at hi
    by_cases hk : i = Rule.id a
    · rw [if_pos hk] at hi
      rw [← Option.some.inj hi, hk]
    · rw [if_neg hk] at hi
      exact hr.ids i a' hi
  · rw [heveryone, forEveryone_link]
    split
    · exact sound_coverBy hr.everyone
    · exact hr.everyone
  · rw [hprincipals, byPrincipal_link]
    exact tidy_link hr.principals
  · intro i b
    rw [hentries, found_insert hid, ← hr.holds, heveryone, forEveryone_link]
    by_cases hp : Rule.principals a = []
    · rw [if_pos hp, holds_coverBy, eq_true hp, true_and]
    · rw [if_neg hp, eq_false hp, false_and, false_or]
  · intro p i b
    rw [hentries, found_insert hid, ← hr.holdsAt, hprincipals, byPrincipal_link]
    exact holdsAt_link

theorem Sound.clearConditions (h : c.Sound) : c.clearConditions.Sound :=
  ⟨h.ids, h.everyone, h.principals, h.holds, h.holdsAt⟩

theorem Sound.isEmpty_iff [CoveringRule α] (h : c.Sound) :
    c.isEmpty = true ↔ ∀ id, id ∉ c.entries := by
  rw [isEmpty, Bool.and_eq_true, Dict.isEmpty_iff, h.everyone.isEmpty_iff]
  constructor
  · rintro ⟨hprincipals, heveryone⟩ id hid
    obtain ⟨a, ha⟩ := Dict.mem_iff.mp hid
    obtain ⟨cover, hc⟩ := List.exists_mem_of_ne_nil _ (CoveringRule.coverage_ne_nil a)
    have hb : cover.bucket ∈ buckets a := List.mem_map_of_mem hc
    by_cases hp : Rule.principals a = []
    · exact heveryone _ _ ((h.holds ..).mpr ⟨a, ha, hp, hb⟩)
    · obtain ⟨p, hp⟩ := List.exists_mem_of_ne_nil _ hp
      obtain ⟨x, hx, -⟩ := (h.holdsAt ..).mpr ⟨a, ha, hp, hb⟩
      exact hprincipals p (Dict.mem_of_get? hx)
  · intro hnone
    refine ⟨fun p hp => ?_, fun i b hi => ?_⟩
    · obtain ⟨x, hx⟩ := Dict.mem_iff.mp hp
      obtain ⟨i, b, hi⟩ := (h.principals p x hx).2
      obtain ⟨a, ha, -⟩ := (h.holdsAt p i b).mp ⟨x, hx, hi⟩
      exact hnone i (Dict.mem_of_get? ha)
    · obtain ⟨a, ha, -⟩ := (h.holds i b).mp hi
      exact hnone i (Dict.mem_of_get? ha)

end Update

section Related
variable {c : RuleCache α} {a : α} {id : String} {ps : List String}

/-- The entry names no principal, or one of those given. -/
def Reaches (ps : List String) (a : α) : Prop :=
  Rule.principals a = [] ∨ ∃ p ∈ ps, p ∈ Rule.principals a

/-- The entry covers the resource. -/
def Covers (resource : String) (a : α) : Prop := ∃ b ∈ buckets a, b.Covers resource

instance (ps : List String) (a : α) : Decidable (Reaches ps a) :=
  inferInstanceAs (Decidable (_ ∨ _))

instance (resource : String) (a : α) : Decidable (Covers resource a) :=
  inferInstanceAs (Decidable (∃ b ∈ buckets a, _))

private theorem mem_foldl_union {indexes : List ResourceIndex} {found : ResourceIndex → NameSet} :
    id ∈ indexes.foldl (fun s x => Dict.union s (found x)) .empty ↔ ∃ x ∈ indexes, id ∈ found x := by
  have hunions : indexes.foldl (fun s x => Dict.union s (found x)) .empty =
      ResourceIndex.unions (indexes.map found) := by
    rw [ResourceIndex.unions, List.foldl_map]
  rw [hunions, ResourceIndex.mem_unions]
  simp only [List.mem_map, exists_exists_and_eq_and]

/-- What the indexes of some principals find is found through the entries. -/
private theorem Sound.exists_index_iff (h : c.Sound) {b : Bucket} :
    (∃ x ∈ c.forEveryone :: ps.filterMap c.byPrincipal.get?, x.Holds id b) ↔
      ∃ a, c.entries.get? id = some a ∧ Reaches ps a ∧ b ∈ buckets a := by
  simp only [List.mem_cons, exists_eq_or_imp, h.holds, List.mem_filterMap]
  constructor
  · rintro (⟨a, ha, hp, hb⟩ | ⟨x, ⟨p, hp, hx⟩, hi⟩)
    · exact ⟨a, ha, .inl hp, hb⟩
    · obtain ⟨a, ha, hpa, hb⟩ := (h.holdsAt p id b).mp ⟨x, hx, hi⟩
      exact ⟨a, ha, .inr ⟨p, hp, hpa⟩, hb⟩
  · rintro ⟨a, ha, hp | ⟨p, hp, hpa⟩, hb⟩
    · exact .inl ⟨a, ha, hp, hb⟩
    · obtain ⟨x, hx, hi⟩ := (h.holdsAt p id b).mpr ⟨a, ha, hpa, hb⟩
      exact .inr ⟨x, ⟨p, hp, hx⟩, hi⟩

private theorem Sound.sound_index (h : c.Sound) {x : ResourceIndex}
    (hx : x ∈ c.forEveryone :: ps.filterMap c.byPrincipal.get?) : x.Sound := by
  rcases List.mem_cons.mp hx with rfl | hx
  · exact h.everyone
  · obtain ⟨p, -, hx⟩ := List.mem_filterMap.mp hx
    exact (h.principals p x hx).1

/-- A live entry is found by a look-up if it names one of the principals, or none, and one of its buckets
covers the resource. -/
private theorem Sound.found_iff (h : c.Sound) {resource : Option String}
    (ha : c.entries.get? id = some a) :
    (∃ x ∈ c.forEveryone :: ps.filterMap c.byPrincipal.get?, id ∈ resource.elim x.all x.matching) ↔
      Reaches ps a ∧ ∃ b ∈ buckets a, ∀ name ∈ resource, b.Covers name := by
  have hfound : (∃ x ∈ c.forEveryone :: ps.filterMap c.byPrincipal.get?,
      id ∈ resource.elim x.all x.matching) ↔
      ∃ b : Bucket, (∀ name ∈ resource, b.Covers name) ∧
        ∃ x ∈ c.forEveryone :: ps.filterMap c.byPrincipal.get?, x.Holds id b := by
    constructor
    · rintro ⟨x, hx, hi⟩
      obtain ⟨b, hb, hc⟩ := ((h.sound_index hx).mem_found resource).mp hi
      exact ⟨b, hc, x, hx, hb⟩
    · rintro ⟨b, hc, x, hx, hb⟩
      exact ⟨x, hx, ((h.sound_index hx).mem_found resource).mpr ⟨b, hb, hc⟩⟩
  refine hfound.trans ?_
  simp only [h.exists_index_iff, ha, Option.some.injEq, exists_eq_left']
  constructor
  · rintro ⟨b, hc, hr, hb⟩
    exact ⟨hr, b, hb, hc⟩
  · rintro ⟨hr, b, hb, hc⟩
    exact ⟨b, hc, hr, hb⟩

/-- A look-up for some principals and a resource finds the entries that concern them. -/
theorem Sound.values_related (h : c.Sound) (ps : List String) (resource : String) :
    (c.related ps (some resource)).values =
      c.entries.values.filter fun a => Reaches ps a ∧ Covers resource a := by
  refine Dict.values_filter fun id a ha => ?_
  rw [Bool.eq_iff_iff, Dict.contains_iff, mem_foldl_union, decide_eq_true_eq, h.found_iff ha]
  simp only [Option.mem_some_iff, forall_eq', Covers]

theorem Sound.get?_of_mem_related (h : c.Sound) {resource : Option String}
    (ha : a ∈ (c.related ps resource).values) : c.get? (Rule.id a) = some a := by
  obtain ⟨id, hid⟩ := Dict.mem_values.mp ha
  rw [related, Dict.get?_filter, Option.filter_eq_some_iff] at hid
  rw [h.ids id a hid.1]
  exact hid.1

/-- Without a resource a look-up finds all entries of the principals, as every rule covers something. -/
theorem Sound.get?_related [CoveringRule α] (h : c.Sound) (ps : List String)
    (resource : Option String) : (c.related ps resource).get? id = some a ↔
      c.entries.get? id = some a ∧ Reaches ps a ∧ ∀ name ∈ resource, Covers name a := by
  rw [related, Dict.get?_filter, Option.filter_eq_some_iff]
  refine and_congr_right fun ha => ?_
  rw [Dict.contains_iff, mem_foldl_union, h.found_iff ha]
  refine and_congr_right fun _ => ?_
  cases resource with
  | none =>
    obtain ⟨k, hk⟩ := List.exists_mem_of_ne_nil _ (CoveringRule.coverage_ne_nil a)
    have hbucket : ∃ b ∈ buckets a, ∀ name ∈ (none : Option String), b.Covers name :=
      ⟨k.bucket, List.mem_map_of_mem hk, fun _ h => nomatch h⟩
    exact iff_of_true hbucket fun _ h => nomatch h
  | some name => simp only [Option.mem_some_iff, forall_eq', Covers]

theorem Sound.mem_values_related [CoveringRule α] (h : c.Sound) {resource : Option String} :
    a ∈ (c.related ps resource).values ↔
      c.get? (Rule.id a) = some a ∧ Reaches ps a ∧ ∀ name ∈ resource, Covers name a := by
  constructor
  · intro ha
    obtain ⟨id, hid⟩ := Dict.mem_values.mp ha
    have hfound := (h.get?_related ps resource).mp hid
    rw [← h.ids id a hfound.1] at hfound
    exact hfound
  · intro ha
    exact Dict.mem_values.mpr ⟨Rule.id a, (h.get?_related ps resource).mpr ha⟩

end Related

end RuleCache
end Turnstile

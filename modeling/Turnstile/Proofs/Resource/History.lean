import Turnstile.Proofs.History
import Turnstile.Proofs.Resource.Expression

/-! Resource indexes after any history of insertions and removals: what they find, and which matches of an
expression they hide. -/
namespace Turnstile.ResourceIndex
variable {id i : String} {b : Bucket} {c : Coverage} {s : Step}

/-- A change of an index. -/
inductive Step where
  | insert (c : Coverage) (id : String)
  | remove (c : Coverage) (id : String)

def step (x : ResourceIndex) : Step → ResourceIndex
  | .insert c id => x.insert c id
  | .remove c id => x.remove c id

/-- What a history of changes makes of an empty index. -/
def after (history : List Step) : ResourceIndex := history.foldl step {}

/-- The coverage was inserted for the identifier, and nothing that shares its bucket has been removed for
the identifier since. -/
def Kept (history : List Step) (id : String) (c : Coverage) : Prop :=
  ∃ earlier later, history = earlier ++ .insert c id :: later ∧
    ∀ d, .remove d id ∈ later → d.bucket ≠ c.bucket

theorem not_kept_nil : ¬ Kept [] id c := by
  rintro ⟨earlier, later, h, -⟩
  simp at h

theorem kept_concat_iff {history : List Step} {s : Step} : Kept (history ++ [s]) id c ↔
    s = .insert c id ∨ Kept history id c ∧ ∀ d, s = .remove d id → d.bucket ≠ c.bucket := by
  constructor
  · rintro ⟨earlier, later, h, hlater⟩
    rcases concat_eq_append_cons_iff.mp h with ⟨-, hs, -⟩ | ⟨later, rfl, rfl⟩
    · exact .inl hs
    · refine .inr ⟨⟨earlier, later, rfl, fun d hd => hlater d (List.mem_append_left _ hd)⟩, ?_⟩
      rintro d rfl
      exact hlater d (List.mem_append_right _ (List.mem_singleton_self _))
  · rintro (rfl | ⟨⟨earlier, later, rfl, hlater⟩, hs⟩)
    · exact ⟨history, [], rfl, fun _ h => nomatch h⟩
    · refine ⟨earlier, later ++ [s], concat_eq_append_cons_iff.mpr (.inr ⟨later, rfl, rfl⟩), fun d hd => ?_⟩
      rcases List.mem_append.mp hd with hd | hd
      · exact hlater d hd
      · exact hs d (List.mem_singleton.mp hd).symm

theorem after_concat (history : List Step) (s : Step) :
    after (history ++ [s]) = (after history).step s := by
  rw [after, after, List.foldl_append, List.foldl_cons, List.foldl_nil]

theorem sound_after (history : List Step) : (after history).Sound := by
  refine List.foldlRecOn (motive := Sound) history step sound_empty fun x hx s _ => ?_
  cases s with
  | insert c id => exact hx.insert
  | remove c id => exact hx.remove

theorem holds_after {history : List Step} :
    (after history).Holds id b ↔ ∃ c, Kept history id c ∧ c.bucket = b := by
  induction history using List.reverseRecOn with
  | nil => exact iff_of_false not_holds_empty fun ⟨c, hc, _⟩ => not_kept_nil hc
  | append_singleton history s ih =>
    rw [after_concat]
    simp only [kept_concat_iff]
    cases s with
    | insert d j =>
      rw [step, holds_insert, ih]
      simp only [Step.insert.injEq, reduceCtorEq, false_implies, implies_true, and_true, or_and_right,
        exists_or]
      refine or_congr ⟨?_, ?_⟩ Iff.rfl
      · rintro ⟨rfl, rfl⟩
        exact ⟨d, ⟨rfl, rfl⟩, rfl⟩
      · rintro ⟨c, ⟨rfl, rfl⟩, rfl⟩
        exact ⟨rfl, rfl⟩
    | remove d j =>
      rw [step, (sound_after history).holds_remove, ih]
      simp only [reduceCtorEq, false_or, Step.remove.injEq]
      constructor
      · rintro ⟨⟨c, hc, rfl⟩, hother⟩
        refine ⟨c, ⟨hc, ?_⟩, rfl⟩
        rintro _ ⟨rfl, rfl⟩ hsame
        exact hother ⟨hsame.symm, rfl⟩
      · rintro ⟨c, ⟨hc, hother⟩, rfl⟩
        refine ⟨⟨c, hc, rfl⟩, ?_⟩
        rintro ⟨hsame, rfl⟩
        exact hother d ⟨rfl, rfl⟩ hsame.symm

/-- A look-up finds exactly the identifiers that keep something that covers the resource. -/
theorem mem_matching_after {history : List Step} {resource : String} :
    id ∈ (after history).matching resource ↔ ∃ c, Kept history id c ∧ c.bucket.Covers resource := by
  rw [(sound_after history).mem_matching]
  simp only [holds_after]
  constructor
  · rintro ⟨_, ⟨c, hc, rfl⟩, hcovers⟩
    exact ⟨c, hc, hcovers⟩
  · rintro ⟨c, hc, hcovers⟩
    exact ⟨_, ⟨c, hc, rfl⟩, hcovers⟩

/-- Expressions of one shape and word share a bucket, so the removal of one of them ends the others. -/
example : "1" ∉ (after [.insert (.expression "^node.*") "1", .insert (.expression "node.*$") "1",
    .remove (.expression "node.*$") "1"]).matching "node1" := by decide +kernel

/-- Indexes hide no match of an expression while it is kept, exactly if a simple shape is anchored at the end
that it fixes, or the expression is invalid and matches nothing. `Kept` leaves out what is hidden from any expression:
to remove another one of its shape and word for the identifier removes both, as they share a bucket. -/
theorem mem_matching_of_matches_iff (e : String) :
    (∀ history id resource, Kept history id (.expression e) → expressionMatches e resource = true →
        id ∈ (after history).matching resource) ↔
      Regex.parse? e = none ∨ (ResourcePattern.classify e).Anchored e := by
  rw [← ResourcePattern.covers_of_matches_iff]
  constructor
  · intro h resource hm
    have hkept : Kept [.insert (.expression e) ""] "" (.expression e) :=
      ⟨[], [], rfl, fun _ h => nomatch h⟩
    obtain ⟨c, hc, hcovers⟩ := mem_matching_after.mp (h _ _ resource hkept hm)
    -- Nothing else is kept after this one insertion.
    rw [← List.nil_append [Step.insert (.expression e) ""], kept_concat_iff] at hc
    rcases hc with hc | ⟨hc, -⟩
    · obtain ⟨rfl, -⟩ := Step.insert.inj hc
      exact hcovers
    · exact absurd hc not_kept_nil
  · intro h history id resource hkept hm
    exact mem_matching_after.mpr ⟨_, hkept, h resource hm⟩

/-- The expression matches, but the index looks for it among the resources that start with its word. -/
theorem not_mem_matching_node : expressionMatches "node.*" "/node1" = true ∧
    "1" ∉ (after [.insert (.expression "node.*") "1"]).matching "/node1" := by
  decide +kernel

end Turnstile.ResourceIndex

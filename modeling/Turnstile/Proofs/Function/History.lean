import Turnstile.Proofs.Function.Calls
import Turnstile.Proofs.History
import Turnstile.Proofs.Registry.History

/-! What a name stands for after functions have come and gone. A custom function takes the place of the builtin
function that has its name, and nothing remembers what stood there before: when the custom function goes, the name
goes. -/
namespace Turnstile

namespace FunctionTable

/-- A change of a function table. -/
inductive Step where
  | add (name : String) (d : FunctionDefinition)
  | remove (name : String)

def step (t : FunctionTable) : Step → FunctionTable
  | .add name d => t.withCustom name d
  | .remove name => t.withoutCustom name

/-- What a history of changes makes of the table of the builtin functions. -/
def after (history : List Step) : FunctionTable := history.foldl step builtins

/-- A custom function has had the name. -/
def Taken (name : String) (history : List Step) : Prop := ∃ d, .add name d ∈ history

/-- A custom function that had the name was removed, and none has taken the name since. -/
def Lost (name : String) (history : List Step) : Prop :=
  ∃ earlier later, history = earlier ++ .remove name :: later ∧ Taken name earlier ∧ ¬ Taken name later

variable {t : FunctionTable} {name n : String} {d : FunctionDefinition} {history : List Step} {s : Step} {b : Builtin}

theorem withoutCustom_of_custom (h : Dict.get? t name = some (.custom d)) :
    t.withoutCustom name = Dict.erase t name := by
  rw [withoutCustom, h]

theorem withoutCustom_of_not_custom (h : ∀ d, Dict.get? t name ≠ some (.custom d)) : t.withoutCustom name = t := by
  rw [withoutCustom]
  split
  · next d hd => exact absurd hd (h d)
  · rfl

theorem get?_withoutCustom_of_ne (h : n ≠ name) : Dict.get? (t.withoutCustom name) n = Dict.get? t n := by
  rw [withoutCustom]
  split
  · rw [Dict.get?_erase, if_neg h]
  · rfl

theorem not_taken_nil (name : String) : ¬ Taken name [] := fun ⟨_, hd⟩ => List.not_mem_nil hd

theorem Lost.taken (h : Lost name history) : Taken name history := by
  obtain ⟨earlier, later, rfl, ⟨d, hd⟩, -⟩ := h
  exact ⟨d, List.mem_append_left _ hd⟩

theorem taken_concat : Taken name (history ++ [s]) ↔ Taken name history ∨ ∃ d, s = .add name d := by
  simp only [Taken, List.mem_append, List.mem_singleton, exists_or, eq_comm]

theorem lost_concat : Lost name (history ++ [s]) ↔
    s = .remove name ∧ Taken name history ∨ Lost name history ∧ ∀ d, s ≠ .add name d := by
  constructor
  · rintro ⟨earlier, later, hsplit, htaken, hlater⟩
    rcases concat_eq_append_cons_iff.mp hsplit with ⟨rfl, hs, -⟩ | ⟨later, rfl, rfl⟩
    · exact .inl ⟨hs, htaken⟩
    · rw [taken_concat, not_or, not_exists] at hlater
      exact .inr ⟨⟨earlier, later, rfl, htaken, hlater.1⟩, hlater.2⟩
  · rintro (⟨rfl, htaken⟩ | ⟨⟨earlier, later, rfl, htaken, hlater⟩, hs⟩)
    · exact ⟨history, [], rfl, htaken, not_taken_nil name⟩
    · refine ⟨earlier, later ++ [s], concat_eq_append_cons_iff.mpr (.inr ⟨later, rfl, rfl⟩), htaken, ?_⟩
      rw [taken_concat, not_or, not_exists]
      exact ⟨hlater, hs⟩

/-- What the name of a builtin function stands for: the function itself as long as the name is not taken, and then a
custom function until the name is lost. -/
structure Stands (b : Builtin) (history : List Step) (t : FunctionTable) : Prop where
  builtin : ¬ Taken b.name history → Dict.get? t b.name = some (.builtin b)
  custom : Taken b.name history → ¬ Lost b.name history → ∃ d, Dict.get? t b.name = some (.custom d)
  none : Lost b.name history → Dict.get? t b.name = none

theorem stands_builtins (b : Builtin) : Stands b [] builtins where
  builtin _ := by cases b <;> decide +kernel
  custom h := absurd h (not_taken_nil _)
  none h := absurd h.taken (not_taken_nil _)

theorem Stands.congr {t' : FunctionTable} {history' : List Step} (h : Stands b history t)
    (htaken : Taken b.name history' ↔ Taken b.name history) (hlost : Lost b.name history' ↔ Lost b.name history)
    (hget : Dict.get? t' b.name = Dict.get? t b.name) : Stands b history' t' where
  builtin := by
    rw [htaken, hget]
    exact h.builtin
  custom := by
    rw [htaken, hlost, hget]
    exact h.custom
  none := by
    rw [hlost, hget]
    exact h.none

theorem Stands.add (h : Stands b history t) (name : String) (d : FunctionDefinition) :
    Stands b (history ++ [.add name d]) (t.withCustom name d) := by
  by_cases hname : b.name = name
  · subst hname
    have htaken : Taken b.name (history ++ [.add b.name d]) := taken_concat.mpr (.inr ⟨d, rfl⟩)
    have hget : Dict.get? (t.withCustom b.name d) b.name = some (.custom d) := by rw [get?_withCustom, if_pos rfl]
    refine ⟨fun hnot => absurd htaken hnot, fun _ _ => ⟨d, hget⟩, fun hlost => ?_⟩
    rcases lost_concat.mp hlost with ⟨hs, -⟩ | ⟨-, hs⟩
    · cases hs
    · exact absurd rfl (hs d)
  · have hother (d' : FunctionDefinition) : Step.add name d ≠ .add b.name d' := fun hs => hname (Step.add.inj hs).1.symm
    have htaken : Taken b.name (history ++ [.add name d]) ↔ Taken b.name history :=
      taken_concat.trans (or_iff_left fun ⟨d', hs⟩ => hother d' hs)
    have hlost : Lost b.name (history ++ [.add name d]) ↔ Lost b.name history := by
      rw [lost_concat, and_iff_left hother, or_iff_right fun hs => Step.noConfusion hs.1]
    have hget : Dict.get? (t.withCustom name d) b.name = Dict.get? t b.name := by rw [get?_withCustom, if_neg hname]
    exact h.congr htaken hlost hget

theorem Stands.remove (h : Stands b history t) (name : String) :
    Stands b (history ++ [.remove name]) (t.withoutCustom name) := by
  have htaken : Taken b.name (history ++ [.remove name]) ↔ Taken b.name history :=
    taken_concat.trans (or_iff_left fun ⟨_, hs⟩ => nomatch hs)
  by_cases hname : name = b.name
  · subst hname
    have hlost : Lost b.name (history ++ [.remove b.name]) ↔ Taken b.name history := by
      rw [lost_concat, eq_self, true_and, or_iff_left_of_imp fun hl => hl.1.taken]
    refine ⟨fun hnot => ?_, fun hyes hnot => ?_, fun hyes => ?_⟩
    · have hbuiltin := h.builtin (mt htaken.mpr hnot)
      rw [withoutCustom_of_not_custom fun d hd => ?_, hbuiltin]
      rw [hbuiltin] at hd
      cases hd
    · exact absurd (hlost.mpr (htaken.mp hyes)) hnot
    · by_cases hbefore : Lost b.name history
      · have hnone := h.none hbefore
        rw [withoutCustom_of_not_custom fun d hd => ?_, hnone]
        rw [hnone] at hd
        cases hd
      · obtain ⟨d, hd⟩ := h.custom (hlost.mp hyes) hbefore
        rw [withoutCustom_of_custom hd, Dict.get?_erase, if_pos rfl]
  · have hlost : Lost b.name (history ++ [.remove name]) ↔ Lost b.name history := by
      rw [lost_concat, or_iff_right fun hs => hname (Step.remove.inj hs.1)]
      exact and_iff_left fun _ => nofun
    have hget : Dict.get? (t.withoutCustom name) b.name = Dict.get? t b.name := get?_withoutCustom_of_ne (Ne.symm hname)
    exact h.congr htaken hlost hget

theorem stands_after (b : Builtin) (history : List Step) : Stands b history (after history) := by
  induction history using List.reverseRecOn with
  | nil => exact stands_builtins b
  | append_singleton history s ih =>
    rw [after, List.foldl_append]
    cases s with
    | add name d => exact ih.add name d
    | remove name => exact ih.remove name

theorem mem_after_iff (b : Builtin) (history : List Step) : b.name ∈ after history ↔ ¬ Lost b.name history := by
  have h := stands_after b history
  constructor
  · intro hmem hlost
    exact Dict.get?_eq_none_iff.mp (h.none hlost) hmem
  · intro hlost
    by_cases htaken : Taken b.name history
    · obtain ⟨d, hd⟩ := h.custom htaken hlost
      exact Dict.mem_of_get? hd
    · exact Dict.mem_of_get? (h.builtin htaken)

end FunctionTable

/-- The changes of the function table since everything was read, which brings the functions of a snapshot. -/
def Mutation.tableSteps (steps : List FunctionTable.Step) : Mutation → List FunctionTable.Step
  | .reload snapshot => snapshot.functions.map fun d => .add d.name d
  | .addFunction d => steps ++ [.add d.name d]
  | .deleteFunction name => steps ++ [.remove name]
  | _ => steps

def tableSteps (history : List Mutation) : List FunctionTable.Step := history.foldl Mutation.tableSteps []

theorem Catalogue.functions_change {c : Catalogue} {steps : List FunctionTable.Step}
    (h : c.functions = FunctionTable.after steps) (m : Mutation) :
    (c.change m).functions = FunctionTable.after (m.tableSteps steps) := by
  have hservice (name : String) (f : LiveService → LiveService) :
      (c.changeService name f).functions = FunctionTable.after steps := by
    rw [changeService]
    split
    · exact h
    · exact h
  cases m with
  | reload snapshot =>
    rw [Mutation.tableSteps, FunctionTable.after, List.foldl_map]
    rfl
  | addService s => exact h
  | deleteService name => exact h
  | addPolicy service p => exact hservice ..
  | deletePolicy service id => exact hservice ..
  | addRolePolicy service p => exact hservice ..
  | deleteRolePolicy service id => exact hservice ..
  | addFunction d =>
    rw [Mutation.tableSteps, FunctionTable.after, List.foldl_append, ← FunctionTable.after, ← h]
    rfl
  | deleteFunction name =>
    rw [Mutation.tableSteps, FunctionTable.after, List.foldl_append, ← FunctionTable.after, ← h]
    rfl

theorem Registry.functions_after (history : List Mutation) :
    (after history).functions = FunctionTable.after (tableSteps history) := by
  rw [(keeps_after history).functions]
  exact List.foldl_rel (r := fun (c : Catalogue) steps => c.functions = FunctionTable.after steps) rfl
    fun m _ _ _ h => Catalogue.functions_change h m

/-- The name of a builtin function can be called unless a custom function that had the name was removed, and none has
taken it since. This is so for every table and for every registry. -/
theorem builtin_mem_after_iff (b : Builtin) :
    (∀ history : List FunctionTable.Step,
      b.name ∈ FunctionTable.after history ↔ ¬ FunctionTable.Lost b.name history) ∧
    ∀ history : List Mutation, b.name ∈ (Registry.after history).functions ↔
      ¬ FunctionTable.Lost b.name (tableSteps history) := by
  refine ⟨FunctionTable.mem_after_iff b, fun history => ?_⟩
  rw [Registry.functions_after]
  exact FunctionTable.mem_after_iff b _

/-- The removal of a custom function removes the builtin function whose name it had. -/
theorem builtin_not_mem_after_removal :
    Builtin.sqrt.name ∉ FunctionTable.after [.add "Sqrt" { name := "Sqrt" }, .remove "Sqrt"] ∧
    Builtin.sqrt.name ∉ (Registry.after [.addFunction { name := "Sqrt" }, .deleteFunction "Sqrt"]).functions := by
  decide +kernel

end Turnstile

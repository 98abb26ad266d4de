import Mathlib.Data.List.Basic
import Turnstile.Live.Synchronisation
import Turnstile.Proofs.Live.Replay
import Turnstile.Proofs.Policy.History

/-! What an event does to the contents of a registry: just what it says is new. -/
namespace Turnstile

namespace Registry

/-- Conditions that are kept are no part of the contents. -/
theorem contents_applyUpdate (r : Registry) (u : ConditionUpdate) :
    (r.applyUpdate u).contents = r.contents := by
  rw [applyUpdate, service?]
  cases hs : r.services.get? u.service with
  | none => rfl
  | some s =>
    dsimp only
    split
    · have hset : (s.setCondition u).content = s.content := by
        rw [LoadedService.setCondition]
        cases u.kind with
        | policy => exact congrArg (fun l => (s.kind, LiveService.mk l _)) (RuleCache.entries_setCondition ..)
        | rolePolicy => exact congrArg (fun l => (s.kind, LiveService.mk _ l)) (RuleCache.entries_setCondition ..)
      apply Dict.ext_get?
      intro k
      rw [contents, contents, Dict.map_insert, Dict.get?_insert, hset]
      split
      · next hk => rw [Dict.get?_map, hk, hs, Option.map_some]
      · rfl
    · rfl

theorem contents_applyUpdates (r : Registry) : r.applyUpdates.contents = r.contents := by
  have key (l : List ConditionUpdate) (r : Registry) : (l.foldl applyUpdate r).contents = r.contents := by
    induction l generalizing r with
    | nil => rfl
    | cons u l ih => rw [List.foldl_cons, ih, contents_applyUpdate]
  rw [applyUpdates]
  split
  · rfl
  · exact key ..

end Registry

namespace Loading

section Makes
variable {γ : Type} {view : Registry → γ}

/-- The loading succeeds, and does this to what is seen of the registry. -/
def Makes (view : Registry → γ) (g : γ → γ) (l : Loading Unit) : Prop :=
  ∀ r, ∃ r', l r = (.ok (), r') ∧ view r' = g (view r)

theorem makes_modify {g : γ → γ} {f : Registry → Registry} (h : ∀ r, view (f r) = g (view r)) :
    Makes view g (modify f) := by
  intro r
  exact ⟨f r, rfl, h r⟩

private theorem orSkip_run {l : Loading Unit} {r r' : Registry} {result : Except Error Unit}
    (h : l r = (result, r')) : l.orSkip r = (.ok (), r') := by
  have hrun : l.orSkip r = (tryCatch l fun _ => pure () : Loading Unit).run r := rfl
  have hbind (f : Except Error Unit → StateM Registry (Except Error Unit)) :
      (ExceptT.run l >>= f) r = f (l r).1 (l r).2 := rfl
  rw [hrun, ExceptT.run_tryCatch, hbind, h]
  cases result with
  | ok _ => rfl
  | error _ => rfl

/-- A failure that is skipped has no effect. -/
theorem makes_orSkip {g : γ → γ} {f : Registry → Except Error Registry}
    (h : ∀ r, view ((f r).toOption.getD r) = g (view r)) : Makes view g (attempt f).orSkip := by
  intro r
  have hr := h r
  cases hf : f r with
  | error e =>
    rw [hf] at hr
    have hattempt : attempt f r = (.error e, r) := by rw [attempt, hf]
    exact ⟨r, orSkip_run hattempt, hr⟩
  | ok r' =>
    rw [hf] at hr
    have hattempt : attempt f r = (.ok (), r') := by rw [attempt, hf]
    exact ⟨r', orSkip_run hattempt, hr⟩

theorem bind_run {β γ : Type} {l : Loading β} {m : β → Loading γ} {r r' : Registry} {b : β} (h : l r = (.ok b, r')) :
    (l >>= m) r = m b r' := by
  simp [bind, StateT.bind, ExceptT.bind, ExceptT.mk, ExceptT.bindCont, h]

theorem makes_forM {β : Type} {g : γ → β → γ} {f : β → Loading Unit} (h : ∀ b, Makes view (g · b) (f b))
    (l : List β) : Makes view (l.foldl g) (l.forM f) := by
  induction l with
  | nil =>
    intro r
    exact ⟨r, rfl, rfl⟩
  | cons b l ih =>
    intro r
    obtain ⟨r₁, hrun₁, hview₁⟩ := h b r
    obtain ⟨r₂, hrun₂, hview₂⟩ := ih r₁
    refine ⟨r₂, (bind_run hrun₁).trans hrun₂, ?_⟩
    rw [hview₂, hview₁]
    rfl

theorem makes_forM_id {β : Type} {f : β → Loading Unit} (h : ∀ b, Makes view id (f b)) (l : List β) :
    Makes view id (l.forM f) := by
  have hall := makes_forM (g := fun s _ => s) h l
  simp only [List.foldl_fixed] at hall
  exact hall

end Makes

variable {α : Type} [PolicyStore α]

/-- A change that says what is new is made as it says. -/
theorem makes_apply (store : α) {c : Change} (hc : c.IsTold) :
    Makes Registry.contents c.update (apply store c) := by
  cases c with
  | serviceAdded s => exact makes_modify fun _ => Registry.contents_addService ..
  | servicesDeleted names =>
    exact makes_forM (fun name => makes_modify fun _ => Registry.contents_deleteService ..) names
  | policiesAdded l =>
    refine makes_forM (fun x => makes_orSkip fun r => ?_) l
    exact Registry.contents_changeService (LoadedService.content_addPolicy r.functions x.policy) r x.service
  | policiesDeleted l =>
    refine makes_forM (fun x => makes_orSkip fun r => ?_) l
    exact Registry.contents_changeService (fun s => s.content_removePolicy x.id) r x.service
  | rolePoliciesAdded l =>
    refine makes_forM (fun x => makes_orSkip fun r => ?_) l
    exact Registry.contents_changeService (LoadedService.content_addRolePolicy r.functions x.policy) r
      x.service
  | rolePoliciesDeleted l =>
    refine makes_forM (fun x => makes_orSkip fun r => ?_) l
    exact Registry.contents_changeService (fun s => s.content_removeRolePolicy x.id) r x.service
  | functionAdded d => exact makes_modify fun _ => Registry.contents_changeFunctions ..
  | functionsDeleted names =>
    exact makes_forM_id (fun name => makes_modify fun _ => Registry.contents_changeFunctions ..) names
  | listed listing => exact absurd hc id
  | replaced => exact absurd hc id

end Loading

end Turnstile

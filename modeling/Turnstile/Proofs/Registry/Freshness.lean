import Mathlib.Logic.Function.Iterate
import Turnstile.Proofs.Policy.History
import Turnstile.Proofs.Registry.History

/-! Compiled conditions that are kept with their rules. A condition is fresh when it has the text of its
rule's condition and was compiled for the functions of the registry. Changes keep conditions fresh; a
waiting update keeps them fresh exactly if it suits the rule that it finds. -/
namespace Turnstile

theorem CompiledCondition.of_compile {expression : String} {functions : FunctionTable}
    {k : CompiledCondition} (h : compile expression functions = .ok k) :
    k.expression = expression ∧ k.functions = functions := by
  rw [compile] at h
  split at h
  · obtain rfl := Except.ok.inj h
    exact ⟨rfl, rfl⟩
  · cases h

/-- A condition is what compiling its text for its functions gives. -/
theorem CompiledCondition.compile_self (k : CompiledCondition) :
    compile k.expression k.functions = .ok k := by
  rw [compile]
  split
  · next program hprogram =>
    obtain rfl := Option.some.inj (k.parsed.symm.trans hprogram)
    rfl
  · next hnone => cases k.parsed.symm.trans hnone

namespace RuleCache
variable {α : Type} [Rule α] {functions : FunctionTable} {c : RuleCache α} {id i : String}
  {k : CompiledCondition}

/-- The condition has the text of the rule's condition and was compiled for the functions. Nothing is
asked where there is no such rule, or none with a condition. -/
def Suits (functions : FunctionTable) (c : RuleCache α) (id : String) (k : CompiledCondition) : Prop :=
  ∀ a expression, c.get? id = some a → Rule.condition? a = some expression →
    k.expression = expression ∧ k.functions = functions

/-- Every condition that is kept suits its rule. -/
def Fresh (functions : FunctionTable) (c : RuleCache α) : Prop :=
  ∀ id k, c.condition? id = some k → c.Suits functions id k

theorem suits_of_compiled {a : α} (ha : c.get? id = some a)
    (hk : compiledCondition? functions a = some k) : c.Suits functions id k := by
  intro a' expression ha' he
  obtain rfl := Option.some.inj (ha.symm.trans ha')
  obtain ⟨_, he', hcompile⟩ := compile_of_compiledCondition? hk
  obtain rfl := Option.some.inj (he.symm.trans he')
  exact CompiledCondition.of_compile hcompile

/-- What is kept for live rules is fresh. -/
theorem Keeps.fresh {rules : Dict α} (h : c.Keeps functions rules) : c.Fresh functions := by
  intro id k hk
  obtain ⟨a, ha, hcompiled⟩ := h.conditions id k hk
  refine suits_of_compiled ?_ hcompiled
  rw [get?, h.entries]
  exact ha

theorem fresh_empty : (empty : RuleCache α).Fresh functions := fun _ _ h => nomatch h

theorem fresh_clearConditions : c.clearConditions.Fresh functions := fun _ _ h => nomatch h

theorem Fresh.remove (h : c.Fresh functions) (ho : c.Owned) (id : String) :
    (c.remove id).Fresh functions := by
  intro i k hk a expression ha he
  have hk := (ho.get?_conditions_remove id i).symm.trans hk
  have ha := (get?_entries_remove c id i).symm.trans ha
  by_cases hi : i = id
  · rw [if_pos hi] at ha
    cases ha
  · rw [if_neg hi] at hk ha
    exact h i k hk a expression ha he

theorem Fresh.add (h : c.Fresh functions) (ho : c.Owned) (a : α) :
    (c.add a (compiledCondition? functions a)).Fresh functions := by
  intro i k hk
  have hk := (ho.get?_conditions_add a _ i).symm.trans hk
  have hentry := get?_entries_add c a (compiledCondition? functions a) i
  by_cases hi : i = Rule.id a
  · rw [if_pos hi] at hk hentry
    exact suits_of_compiled hentry hk
  · rw [if_neg hi] at hk hentry
    exact fun a' expression ha' => h i k hk a' expression (hentry.symm.trans ha')

theorem suits_setCondition_iff {j : String} {l : CompiledCondition} :
    (c.setCondition id k).Suits functions j l ↔ c.Suits functions j l := by
  simp only [Suits, get?, entries_setCondition]

/-- A condition that is set keeps a cache fresh exactly if it suits its rule. -/
theorem Fresh.setCondition_iff (h : c.Fresh functions) :
    (c.setCondition id k).Fresh functions ↔ c.Suits functions id k := by
  constructor
  · intro hf a expression ha he
    have hk : (c.setCondition id k).condition? id = some k := by
      rw [condition?, get?_conditions_setCondition, if_pos ⟨rfl, Dict.mem_of_get? ha⟩]
    exact suits_setCondition_iff.mp (hf id k hk) a expression ha he
  · intro hs i l hl
    rw [suits_setCondition_iff]
    rw [condition?, get?_conditions_setCondition] at hl
    by_cases hi : i = id ∧ id ∈ c.entries
    · rw [if_pos hi] at hl
      obtain rfl := Option.some.inj hl
      exact hi.1 ▸ hs
    · rw [if_neg hi] at hl
      exact h i l hl

end RuleCache

namespace LoadedService
variable {functions : FunctionTable} {s : LoadedService} {u v : ConditionUpdate}

structure Orderly (s : LoadedService) : Prop where
  policies : s.policies.Orderly
  rolePolicies : s.rolePolicies.Orderly

structure Fresh (functions : FunctionTable) (s : LoadedService) : Prop where
  policies : s.policies.Fresh functions
  rolePolicies : s.rolePolicies.Fresh functions

/-- The update suits the rule that it is for. -/
def Suits (functions : FunctionTable) (s : LoadedService) (u : ConditionUpdate) : Prop :=
  match u.kind with
  | .policy => s.policies.Suits functions u.id u.condition
  | .rolePolicy => s.rolePolicies.Suits functions u.id u.condition

/-- A property of loaded services that changes keep. It may depend on the function table. -/
structure Stable (P : FunctionTable → LoadedService → Prop) : Prop where
  empty : ∀ functions name kind stamp, P functions { name, kind, stamp }
  addPolicy : ∀ functions s p, P functions s → P functions (s.addPolicy functions p)
  addRolePolicy : ∀ functions s p, P functions s → P functions (s.addRolePolicy functions p)
  removePolicy : ∀ functions s id, P functions s →
    P functions { s with policies := s.policies.remove id }
  removeRolePolicy : ∀ functions s id, P functions s →
    P functions { s with rolePolicies := s.rolePolicies.remove id }
  clearConditions : ∀ functions functions' s, P functions s → P functions' s.clearConditions

theorem Stable.build {P : FunctionTable → LoadedService → Prop} (h : Stable P)
    (functions : FunctionTable) (stamp : Nat) (s : Service) : P functions (build functions stamp s) := by
  have hpolicies := List.foldlRecOn (motive := P functions) s.policies (LoadedService.addPolicy functions)
    (h.empty functions s.name s.kind stamp) fun t ht p _ => h.addPolicy functions t p ht
  exact List.foldlRecOn (motive := P functions) s.rolePolicies
    (LoadedService.addRolePolicy functions) hpolicies
    fun t ht p _ => h.addRolePolicy functions t p ht

theorem stable_orderly : Stable fun _ s => s.Orderly where
  empty _ _ _ _ := ⟨RuleCache.orderly_empty, RuleCache.orderly_empty⟩
  addPolicy _ _ p h := ⟨h.policies.add p _, h.rolePolicies⟩
  addRolePolicy _ _ p h := ⟨h.policies, h.rolePolicies.add p _⟩
  removePolicy _ _ id h := ⟨h.policies.remove id, h.rolePolicies⟩
  removeRolePolicy _ _ id h := ⟨h.policies, h.rolePolicies.remove id⟩
  clearConditions _ _ _ h := ⟨h.policies.clearConditions, h.rolePolicies.clearConditions⟩

theorem stable_fresh : Stable fun functions s => s.Orderly ∧ s.Fresh functions where
  empty functions name kind stamp := ⟨stable_orderly.empty functions name kind stamp,
    RuleCache.fresh_empty, RuleCache.fresh_empty⟩
  addPolicy functions s p h := ⟨stable_orderly.addPolicy functions s p h.1,
    h.2.policies.add h.1.policies.owned p, h.2.rolePolicies⟩
  addRolePolicy functions s p h := ⟨stable_orderly.addRolePolicy functions s p h.1,
    h.2.policies, h.2.rolePolicies.add h.1.rolePolicies.owned p⟩
  removePolicy functions s id h := ⟨stable_orderly.removePolicy functions s id h.1,
    h.2.policies.remove h.1.policies.owned id, h.2.rolePolicies⟩
  removeRolePolicy functions s id h := ⟨stable_orderly.removeRolePolicy functions s id h.1,
    h.2.policies, h.2.rolePolicies.remove h.1.rolePolicies.owned id⟩
  clearConditions functions functions' s h := ⟨stable_orderly.clearConditions functions functions' s h.1,
    RuleCache.fresh_clearConditions, RuleCache.fresh_clearConditions⟩

@[simp] theorem name_setCondition : (s.setCondition u).name = s.name := by
  rw [setCondition]
  split <;> rfl

@[simp] theorem stamp_setCondition : (s.setCondition u).stamp = s.stamp := by
  rw [setCondition]
  split <;> rfl

theorem Orderly.setCondition (h : s.Orderly) (u : ConditionUpdate) : (s.setCondition u).Orderly := by
  rw [LoadedService.setCondition]
  split
  · exact ⟨h.policies.setCondition _ _, h.rolePolicies⟩
  · exact ⟨h.policies, h.rolePolicies.setCondition _ _⟩

theorem suits_setCondition_iff : (s.setCondition v).Suits functions u ↔ s.Suits functions u := by
  rw [Suits, Suits, LoadedService.setCondition]
  cases u.kind <;> cases v.kind <;> simp only [RuleCache.suits_setCondition_iff]

theorem Fresh.setCondition_iff (h : s.Fresh functions) :
    (s.setCondition u).Fresh functions ↔ s.Suits functions u := by
  rw [Suits, LoadedService.setCondition]
  cases u.kind with
  | policy =>
    rw [← h.policies.setCondition_iff]
    exact ⟨fun hf => hf.policies, fun hf => ⟨hf, h.rolePolicies⟩⟩
  | rolePolicy =>
    rw [← h.rolePolicies.setCondition_iff]
    exact ⟨fun hf => hf.rolePolicies, fun hf => ⟨h.policies, hf⟩⟩

end LoadedService

namespace Registry
variable {r : Registry} {u v : ConditionUpdate} {P : FunctionTable → LoadedService → Prop}

/-- Every loaded service has a property, and is found under its name. -/
def Everywhere (P : FunctionTable → LoadedService → Prop) (functions : FunctionTable)
    (services : Dict LoadedService) : Prop :=
  ∀ name s, services.get? name = some s → s.name = name ∧ P functions s

section Change
variable {functions : FunctionTable} {services : Dict LoadedService}

private theorem Everywhere.insert (h : Everywhere P functions services) {s : LoadedService}
    (hs : P functions s) : Everywhere P functions (services.insert s.name s) := by
  intro n t ht
  rw [Dict.get?_insert] at ht
  by_cases hn : n = s.name
  · rw [if_pos hn] at ht
    obtain rfl := Option.some.inj ht
    exact ⟨hn.symm, hs⟩
  · rw [if_neg hn] at ht
    exact h n t ht

private theorem Everywhere.changeService (h : Everywhere P r.functions r.services) {name : String}
    {f : LoadedService → LoadedService} (hname : ∀ s, (f s).name = s.name)
    (hf : ∀ s, P r.functions s → P r.functions (f s)) :
    Everywhere P ((r.changeService name f).toOption.getD r).functions
      ((r.changeService name f).toOption.getD r).services := by
  rw [Registry.changeService, service?]
  cases hs : r.services.get? name with
  | none => exact h
  | some s =>
    obtain ⟨rfl, hP⟩ := h name s hs
    have := h.insert (hf s hP)
    rw [hname] at this
    exact this

private theorem Everywhere.changeFunctions (hP : LoadedService.Stable P)
    (h : Everywhere P r.functions r.services) (name : String) (functions : FunctionTable) :
    Everywhere P (r.changeFunctions name functions).functions
      (r.changeFunctions name functions).services := by
  intro n t ht
  rw [Registry.changeFunctions, Dict.get?_map] at ht
  obtain ⟨s, hs, rfl⟩ := Option.map_eq_some_iff.mp ht
  obtain ⟨hn, hp⟩ := h n s hs
  exact ⟨hn, hP.clearConditions r.functions functions s hp⟩

/-- A reload builds every service anew. -/
private theorem everywhere_reload (hP : LoadedService.Stable P) (r : Registry) (snapshot : Snapshot) :
    Everywhere P (r.reload snapshot).functions (r.reload snapshot).services := by
  let functions := (r.reload snapshot).functions
  refine List.foldlRecOn
    (motive := fun loaded : Dict LoadedService × Nat => Everywhere P functions loaded.1)
    snapshot.services _ (fun _ _ h => nomatch h) fun loaded h s _ => ?_
  have := h.insert (hP.build functions loaded.2 s)
  rw [LoadedService.name_build] at this
  exact this

/-- Every change keeps what changes of a service keep. -/
theorem Everywhere.change (hP : LoadedService.Stable P) (h : Everywhere P r.functions r.services)
    (m : Mutation) : Everywhere P (r.change m).functions (r.change m).services := by
  cases m with
  | reload snapshot => exact everywhere_reload hP r snapshot
  | addService s =>
    rw [Registry.change, Registry.addService, insertBuilt?, if_pos rfl, Option.getD_some]
    exact h.insert (hP.build r.functions r.stamp s)
  | deleteService name =>
    intro n t ht
    rw [Registry.change, Registry.deleteService, Dict.get?_erase] at ht
    by_cases hn : n = name
    · rw [if_pos hn] at ht
      cases ht
    · rw [if_neg hn] at ht
      exact h n t ht
  | addPolicy service p =>
    exact h.changeService (fun _ => rfl) fun s => hP.addPolicy r.functions s p
  | deletePolicy service id =>
    exact h.changeService (fun _ => rfl) fun s => hP.removePolicy r.functions s id
  | addRolePolicy service p =>
    exact h.changeService (fun _ => rfl) fun s => hP.addRolePolicy r.functions s p
  | deleteRolePolicy service id =>
    exact h.changeService (fun _ => rfl) fun s => hP.removeRolePolicy r.functions s id
  | addFunction d => exact h.changeFunctions hP d.name _
  | deleteFunction name => exact h.changeFunctions hP name _

end Change

def Orderly (r : Registry) : Prop := Everywhere (fun _ s => s.Orderly) r.functions r.services

/-- Every compiled condition of a live rule is fresh. -/
def Fresh (r : Registry) : Prop := ∀ name s, r.service? name = some s → s.Fresh r.functions

/-- The update suits the rule that it reaches, if it reaches one. -/
def Suits (r : Registry) (u : ConditionUpdate) : Prop :=
  ∀ s, r.service? u.service = some s → s.stamp = u.stamp → s.Suits r.functions u

theorem Keeps.fresh {c : Catalogue} (h : r.Keeps c) : r.Fresh := by
  intro name s hs
  have hrel := h.services name
  rw [service?] at hs
  rw [hs] at hrel
  rw [h.functions]
  generalize c.services.get? name = l at hrel
  cases hrel with
  | some hkeeps => exact ⟨hkeeps.policies.fresh, hkeeps.rolePolicies.fresh⟩

theorem Orderly.change (h : r.Orderly) (m : Mutation) : (r.change m).Orderly :=
  Everywhere.change LoadedService.stable_orderly h m

/-- What is compiled when rules change is fresh. -/
theorem Fresh.change (h : r.Fresh) (ho : r.Orderly) (m : Mutation) : (r.change m).Fresh := by
  have hboth : Everywhere (fun functions s => s.Orderly ∧ s.Fresh functions) r.functions r.services :=
    fun name s hs => ⟨(ho name s hs).1, (ho name s hs).2, h name s hs⟩
  exact fun name s hs => (hboth.change LoadedService.stable_fresh m name s hs).2.2

section Update

/-- An update sets a condition in the service that it was compiled for. -/
theorem service?_applyUpdate (r : Registry) (u : ConditionUpdate) (name : String) :
    (r.applyUpdate u).service? name = (r.service? name).map fun s =>
      if name = u.service ∧ s.stamp = u.stamp then s.setCondition u else s := by
  rw [applyUpdate]
  cases hs : r.service? u.service with
  | none =>
    by_cases hn : name = u.service
    · rw [hn, hs]
      rfl
    · simp [hn]
  | some s =>
    dsimp only
    by_cases hn : name = u.service
    · subst hn
      by_cases hstamp : s.stamp = u.stamp
      · rw [if_pos hstamp, hs, Option.map_some, if_pos ⟨rfl, hstamp⟩, service?, Dict.get?_insert,
          if_pos rfl]
      · rw [if_neg hstamp, hs, Option.map_some, if_neg fun h => hstamp h.2]
    · have hother : (fun s : LoadedService =>
          if name = u.service ∧ s.stamp = u.stamp then s.setCondition u else s) = id := by
        funext s
        rw [if_neg fun h => hn h.1]
        rfl
      rw [hother, Option.map_id, id]
      split
      · rw [service?, Dict.get?_insert, if_neg hn]
        rfl
      · rfl

@[simp] theorem functions_applyUpdate (r : Registry) (u : ConditionUpdate) :
    (r.applyUpdate u).functions = r.functions := by
  rw [applyUpdate]
  split
  · split <;> rfl
  · rfl

@[simp] theorem updates_applyUpdate (r : Registry) (u : ConditionUpdate) :
    (r.applyUpdate u).updates = r.updates := by
  rw [applyUpdate]
  split
  · split <;> rfl
  · rfl

theorem Orderly.applyUpdate (h : r.Orderly) (u : ConditionUpdate) : (r.applyUpdate u).Orderly := by
  intro name s hs
  have hs := (service?_applyUpdate r u name).symm.trans hs
  obtain ⟨t, ht, rfl⟩ := Option.map_eq_some_iff.mp hs
  obtain ⟨hname, ho⟩ := h name t ht
  split
  · exact ⟨LoadedService.name_setCondition.trans hname, ho.setCondition u⟩
  · exact ⟨hname, ho⟩

/-- An update keeps conditions fresh exactly if it suits the rule that it reaches. -/
theorem Fresh.applyUpdate_iff (h : r.Fresh) : (r.applyUpdate u).Fresh ↔ r.Suits u := by
  constructor
  · intro hf s hs hstamp
    have hset : (r.applyUpdate u).service? u.service = some (s.setCondition u) := by
      rw [service?_applyUpdate, hs, Option.map_some, if_pos ⟨rfl, hstamp⟩]
    have := hf u.service _ hset
    rw [functions_applyUpdate] at this
    exact (h u.service s hs).setCondition_iff.mp this
  · intro hsuits name s hs
    rw [functions_applyUpdate]
    rw [service?_applyUpdate] at hs
    obtain ⟨t, ht, rfl⟩ := Option.map_eq_some_iff.mp hs
    split
    · next hu =>
      obtain ⟨rfl, hstamp⟩ := hu
      exact (h _ t ht).setCondition_iff.mpr (hsuits t ht hstamp)
    · exact h name t ht

/-- Updates change neither rules nor functions, so what suits before an update suits after it. -/
theorem Suits.applyUpdate (h : r.Suits v) (u : ConditionUpdate) : (r.applyUpdate u).Suits v := by
  intro s hs hstamp
  rw [functions_applyUpdate]
  rw [service?_applyUpdate] at hs
  obtain ⟨t, ht, rfl⟩ := Option.map_eq_some_iff.mp hs
  split at hstamp
  · next hu =>
    rw [if_pos hu, LoadedService.suits_setCondition_iff]
    exact h t ht (LoadedService.stamp_setCondition.symm.trans hstamp)
  · next hu =>
    rw [if_neg hu]
    exact h t ht hstamp

end Update

section Queue

/-- Applies the first update that waits. -/
def publishNext (r : Registry) : Registry :=
  match r.updates with
  | some (u :: waiting) => { r with updates := some waiting }.applyUpdate u
  | _ => r

@[simp] theorem updates_publishNext (r : Registry) :
    r.publishNext.updates = r.updates.map List.tail := by
  rw [publishNext]
  split
  · next h => rw [updates_applyUpdate, h, Option.map_some, List.tail_cons]
  · next h =>
    cases hu : r.updates with
    | none => rfl
    | some waiting =>
      cases waiting with
      | nil => rfl
      | cons u waiting => exact absurd hu (h u waiting)

private theorem updates_changeService (name : String) (f : LoadedService → LoadedService) :
    ((r.changeService name f).toOption.getD r).updates = r.updates := by
  rw [changeService]
  split <;> rfl

@[simp] theorem updates_change (r : Registry) (m : Mutation) : (r.change m).updates = r.updates := by
  cases m with
  | reload snapshot => rfl
  | addService s =>
    rw [change, addService, insertBuilt?, if_pos rfl, Option.getD_some]
  | deleteService name => rfl
  | addPolicy service p => exact updates_changeService ..
  | deletePolicy service id => exact updates_changeService ..
  | addRolePolicy service p => exact updates_changeService ..
  | deleteRolePolicy service id => exact updates_changeService ..
  | addFunction d => rfl
  | deleteFunction name => rfl

theorem Orderly.publishNext (h : r.Orderly) : r.publishNext.Orderly := by
  rw [Registry.publishNext]
  split
  · next u waiting _ =>
    have : Orderly { r with updates := some waiting } := h
    exact this.applyUpdate u
  · exact h

theorem Fresh.publishNext_iff (h : r.Fresh) :
    r.publishNext.Fresh ↔ ∀ u waiting, r.updates = some (u :: waiting) → r.Suits u := by
  rw [Registry.publishNext]
  split
  · next u waiting hu =>
    have hfresh : Fresh { r with updates := some waiting } := h
    rw [hfresh.applyUpdate_iff]
    constructor
    · intro hs v others hv
      obtain ⟨rfl, -⟩ := List.cons.inj (Option.some.inj (hu.symm.trans hv))
      exact hs
    · intro hs
      exact hs u waiting hu
  · next hu => exact iff_of_true h fun u waiting hw => absurd hw (hu u waiting)

theorem Suits.publishNext (h : r.Suits u) : r.publishNext.Suits u := by
  rw [Registry.publishNext]
  split
  · next v waiting _ =>
    have : Suits { r with updates := some waiting } u := h
    exact this.applyUpdate v
  · exact h

end Queue

end Registry
end Turnstile

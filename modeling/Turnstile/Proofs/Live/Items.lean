import Turnstile.Proofs.Live.Replay

/-! Policies and role policies one by one. The last of the edits that name an item tells what becomes of it; edits
of other items do not matter. -/
namespace Turnstile

/-- A place for a policy or a role policy. -/
inductive Item where
  | policy (service id : String)
  | rolePolicy (service id : String)
deriving DecidableEq

namespace Item

def service : Item → String
  | policy service _ => service
  | rolePolicy service _ => service

/-- What stands at the place in its service. -/
def at? (l : LiveService) : Item → Option (Policy ⊕ RolePolicy)
  | policy _ id => (l.policies.get? id).map .inl
  | rolePolicy _ id => (l.rolePolicies.get? id).map .inr

def find? (d : Dict Content) (item : Item) : Option (Policy ⊕ RolePolicy) :=
  (d.get? item.service).bind fun c => item.at? c.2

end Item

namespace Edit

/-- The edit creates, replaces or deletes a policy or a role policy. -/
def IsRule : Edit → Prop
  | createPolicy .. | deletePolicy .. | createRolePolicy .. | deleteRolePolicy .. => True
  | _ => False

instance : (e : Edit) → Decidable e.IsRule
  | createPolicy .. | deletePolicy .. | createRolePolicy .. | deleteRolePolicy .. => .isTrue trivial
  | createService _ | deleteService _ | createFunction _ | deleteFunction _ | replaceAll _ | listAll _ => .isFalse id

theorem IsRule.isTold {e : Edit} (h : e.IsRule) : e.change.IsTold := by
  cases e with
  | createPolicy _ _ => trivial
  | deletePolicy _ _ => trivial
  | createRolePolicy _ _ => trivial
  | deleteRolePolicy _ _ => trivial
  | createService _ => cases h
  | deleteService _ => cases h
  | createFunction _ => cases h
  | deleteFunction _ => cases h
  | replaceAll _ => cases h
  | listAll _ => cases h

/-- The item that is edited, and what is to stand there. -/
def word? : Edit → Option (Item × Option (Policy ⊕ RolePolicy))
  | createPolicy service p => some (.policy service p.id, some (.inl p))
  | deletePolicy service id => some (.policy service id, none)
  | createRolePolicy service p => some (.rolePolicy service p.id, some (.inr p))
  | deleteRolePolicy service id => some (.rolePolicy service id, none)
  | _ => none

/-- What the last edit of an item in a log says. -/
def lastWord (log : List Edit) (item : Item) : Option (Option (Policy ⊕ RolePolicy)) :=
  ((log.filterMap word?).filter (·.1 = item)).getLast?.map (·.2)

theorem lastWord_concat (log : List Edit) (e : Edit) (item : Item) : lastWord (log ++ [e]) item =
    match e.word? with
    | some (other, word) => if other = item then some word else lastWord log item
    | none => lastWord log item := by
  rw [lastWord, List.filterMap_append, List.filter_append]
  cases hword : e.word? with
  | none => simp [hword, lastWord]
  | some x =>
    obtain ⟨other, word⟩ := x
    by_cases ho : other = item
    · simp [hword, ho]
    · simp [hword, ho, lastWord]

end Edit

namespace Edit

/-- The edit sets one item in its service to a value, and nothing else. -/
structure Sets (e : Edit) (item : Item) (value : Option (Policy ⊕ RolePolicy)) (f : Content → Content) : Prop where
  word : e.word? = some (item, value)
  update : ∀ d, e.change.update d = d.modify item.service f
  kind : ∀ c, (f c).1 = c.1
  self : ∀ c, item.at? (f c).2 = value
  others : ∀ c other, other.service = item.service → other ≠ item → other.at? (f c).2 = other.at? c.2

theorem sets_createPolicy (service : String) (p : Policy) :
    (createPolicy service p).Sets (.policy service p.id) (some (.inl p)) (.addPolicy p) where
  word := rfl
  update _ := rfl
  kind _ := rfl
  self c := by simp [Item.at?, Content.addPolicy, LiveService.addPolicy, Dict.get?_insert]
  others c other hs hne := by
    cases other with
    | policy s id =>
      have hid : id ≠ p.id := fun hid => hne (by rw [show s = service from hs, hid])
      simp [Item.at?, Content.addPolicy, LiveService.addPolicy, Dict.get?_insert, hid]
    | rolePolicy s id => rfl

theorem sets_deletePolicy (service id : String) :
    (deletePolicy service id).Sets (.policy service id) none (.deletePolicy id) where
  word := rfl
  update _ := rfl
  kind _ := rfl
  self c := by simp [Item.at?, Content.deletePolicy, Dict.get?_erase]
  others c other hs hne := by
    cases other with
    | policy s i =>
      have hid : i ≠ id := fun hid => hne (by rw [show s = service from hs, hid])
      simp [Item.at?, Content.deletePolicy, Dict.get?_erase, hid]
    | rolePolicy s i => rfl

theorem sets_createRolePolicy (service : String) (p : RolePolicy) :
    (createRolePolicy service p).Sets (.rolePolicy service p.id) (some (.inr p)) (.addRolePolicy p) where
  word := rfl
  update _ := rfl
  kind _ := rfl
  self c := by simp [Item.at?, Content.addRolePolicy, LiveService.addRolePolicy, Dict.get?_insert]
  others c other hs hne := by
    cases other with
    | policy s id => rfl
    | rolePolicy s id =>
      have hid : id ≠ p.id := fun hid => hne (by rw [show s = service from hs, hid])
      simp [Item.at?, Content.addRolePolicy, LiveService.addRolePolicy, Dict.get?_insert, hid]

theorem sets_deleteRolePolicy (service id : String) :
    (deleteRolePolicy service id).Sets (.rolePolicy service id) none (.deleteRolePolicy id) where
  word := rfl
  update _ := rfl
  kind _ := rfl
  self c := by simp [Item.at?, Content.deleteRolePolicy, Dict.get?_erase]
  others c other hs hne := by
    cases other with
    | policy s i => rfl
    | rolePolicy s i =>
      have hid : i ≠ id := fun hid => hne (by rw [show s = service from hs, hid])
      simp [Item.at?, Content.deleteRolePolicy, Dict.get?_erase, hid]

theorem IsRule.exists_sets {e : Edit} (h : e.IsRule) : ∃ item value f, e.Sets item value f := by
  cases e with
  | createPolicy service p => exact ⟨_, _, _, sets_createPolicy service p⟩
  | deletePolicy service id => exact ⟨_, _, _, sets_deletePolicy service id⟩
  | createRolePolicy service p => exact ⟨_, _, _, sets_createRolePolicy service p⟩
  | deleteRolePolicy service id => exact ⟨_, _, _, sets_deleteRolePolicy service id⟩
  | createService _ => cases h
  | deleteService _ => cases h
  | createFunction _ => cases h
  | deleteFunction _ => cases h
  | replaceAll _ => cases h
  | listAll _ => cases h

/-- Services are neither added nor dropped, and keep their kinds. -/
theorem Sets.map_update {e : Edit} {item : Item} {value : Option (Policy ⊕ RolePolicy)} {f : Content → Content}
    (h : e.Sets item value f) (d : Dict Content) (service : String) :
    ((e.change.update d).get? service).map Prod.fst = (d.get? service).map Prod.fst := by
  rw [h.update, Dict.get?_modify]
  split
  · rw [Option.map_map]
    exact congrArg (Option.map · (d.get? service)) (funext h.kind)
  · rfl

theorem Sets.find?_update {e : Edit} {item : Item} {value : Option (Policy ⊕ RolePolicy)} {f : Content → Content}
    (h : e.Sets item value f) {d : Dict Content} {other : Item} (hservice : other.service ∈ d) :
    other.find? (e.change.update d) = if item = other then value else other.find? d := by
  obtain ⟨c, hc⟩ := Dict.mem_iff.mp hservice
  rw [Item.find?, Item.find?, h.update, Dict.get?_modify, hc]
  by_cases hsame : item = other
  · rw [if_pos (congrArg Item.service hsame).symm, if_pos hsame, ← hsame]
    exact h.self c
  · rw [if_neg hsame]
    by_cases hs : other.service = item.service
    · rw [if_pos hs]
      exact h.others c other hs (Ne.symm hsame)
    · rw [if_neg hs]

end Edit

open Change (replay)

section Replay
variable {log log' : List Edit} (rules : ∀ e ∈ log, e.IsRule) (rules' : ∀ e ∈ log', e.IsRule) (d : Dict Content)
include rules

theorem map_replay (service : String) :
    ((replay (log.map Edit.change) d).get? service).map Prod.fst = (d.get? service).map Prod.fst := by
  induction log using List.reverseRecOn with
  | nil => rfl
  | append_singleton log e ih =>
    obtain ⟨item, value, f, hsets⟩ := (rules e (List.mem_append_right _ List.mem_cons_self)).exists_sets
    rw [List.map_append, List.map_singleton, Change.replay_concat, hsets.map_update]
    exact ih fun e he => rules e (List.mem_append_left _ he)

theorem mem_replay_iff (service : String) : service ∈ replay (log.map Edit.change) d ↔ service ∈ d := by
  have hkinds := congrArg Option.isSome (map_replay rules d service)
  rw [Option.isSome_map, Option.isSome_map] at hkinds
  rw [Dict.mem_iff_isSome, Dict.mem_iff_isSome, hkinds]

/-- An item is what the last edit of it says, or else what it was. -/
theorem find?_replay {item : Item} (hservice : item.service ∈ d) :
    item.find? (replay (log.map Edit.change) d) = (Edit.lastWord log item).getD (item.find? d) := by
  induction log using List.reverseRecOn with
  | nil => rfl
  | append_singleton log e ih =>
    have hrules (e : Edit) (he : e ∈ log) : e.IsRule := rules e (List.mem_append_left _ he)
    obtain ⟨other, value, f, hsets⟩ := (rules e (List.mem_append_right _ List.mem_cons_self)).exists_sets
    rw [List.map_append, List.map_singleton, Change.replay_concat,
      hsets.find?_update ((mem_replay_iff hrules d _).mpr hservice), Edit.lastWord_concat, hsets.word, ih hrules]
    dsimp only
    split
    · rfl
    · rfl

include rules'

/-- Two logs have one outcome if they have the same last words about every item of a service, unless an edit says only
what was there before. -/
theorem replay_eq_iff : replay (log.map Edit.change) d = replay (log'.map Edit.change) d ↔
    ∀ item : Item, item.service ∈ d →
      (Edit.lastWord log item).getD (item.find? d) = (Edit.lastWord log' item).getD (item.find? d) := by
  constructor
  · intro h item hservice
    rw [← find?_replay rules d hservice, ← find?_replay rules' d hservice, h]
  · intro h
    have hitem (item : Item) (hservice : item.service ∈ d) :
        item.find? (replay (log.map Edit.change) d) = item.find? (replay (log'.map Edit.change) d) := by
      rw [find?_replay rules d hservice, find?_replay rules' d hservice, h item hservice]
    apply Dict.ext_get?
    intro service
    have hkinds := (map_replay rules d service).trans (map_replay rules' d service).symm
    have hmem := mem_replay_iff rules d service
    cases hc : (replay (log.map Edit.change) d).get? service with
    | none =>
      rw [hc] at hkinds
      exact (Option.map_eq_none_iff.mp hkinds.symm).symm
    | some c =>
      cases hc' : (replay (log'.map Edit.change) d).get? service with
      | none =>
        rw [hc, hc'] at hkinds
        cases hkinds
      | some c' =>
        have hservice := hmem.mp (Dict.mem_of_get? hc)
        rw [hc, hc'] at hkinds
        obtain ⟨kind, l⟩ := c
        obtain ⟨kind', l'⟩ := c'
        obtain rfl : kind = kind' := Option.some.inj hkinds
        have hpolicies : l.policies = l'.policies := Dict.ext_get? fun id => by
          have hid := hitem (.policy service id) hservice
          simp only [Item.find?, Item.service, hc, hc', Item.at?, Option.bind_some] at hid
          exact Option.map_injective (fun _ _ => Sum.inl.inj) hid
        have hrolePolicies : l.rolePolicies = l'.rolePolicies := Dict.ext_get? fun id => by
          have hid := hitem (.rolePolicy service id) hservice
          simp only [Item.find?, Item.service, hc, hc', Item.at?, Option.bind_some] at hid
          exact Option.map_injective (fun _ _ => Sum.inr.inj) hid
        obtain ⟨_, _⟩ := l
        obtain ⟨_, _⟩ := l'
        obtain rfl := hpolicies
        obtain rfl := hrolePolicies
        rfl

end Replay
end Turnstile

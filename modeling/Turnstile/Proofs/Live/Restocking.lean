import Turnstile.Proofs.Live.Placing

/-! What becomes of a stock. Edits of a store and events in a registry do the same to it, what they leave depends on
what there was only, and edits that are made again on their own outcome change nothing. -/
namespace Turnstile

namespace Change

/-- What a change that says what is new makes of the names of functions. -/
def updateFunctions (c : Change) (names : NameSet) : NameSet :=
  match c with
  | functionAdded d => names.add d.name
  | functionsDeleted l => l.foldl Dict.erase names
  | _ => names

def restock (c : Change) (s : Stock) : Stock := ⟨c.update s.contents, c.updateFunctions s.functions⟩

theorem overwrites_updateFunctions (c : Change) : Dict.Overwrites c.updateFunctions := by
  cases c with
  | functionAdded d => exact .insert d.name ()
  | functionsDeleted l => exact .foldl (fun name => .erase name) l
  | serviceAdded _ => exact .id
  | servicesDeleted _ => exact .id
  | policiesAdded _ => exact .id
  | policiesDeleted _ => exact .id
  | rolePoliciesAdded _ => exact .id
  | rolePoliciesDeleted _ => exact .id
  | listed _ => exact .id
  | replaced => exact .id

end Change

namespace Loading
variable {α : Type} [PolicyStore α]

theorem makes_apply_functions (store : α) {c : Change} (hc : c.IsTold) :
    Makes (·.stock.functions) c.updateFunctions (apply store c) := by
  cases c with
  | serviceAdded s => exact makes_modify fun r => (congrArg Stock.functions (r.stock_addService s) :)
  | servicesDeleted names =>
    exact makes_forM_id
      (fun name => makes_modify fun r => (congrArg Stock.functions (r.stock_deleteService name) :)) names
  | policiesAdded l => exact makes_forM_id (fun x => makes_orSkip fun r => r.stock_functions_changeService ..) l
  | policiesDeleted l => exact makes_forM_id (fun x => makes_orSkip fun r => r.stock_functions_changeService ..) l
  | rolePoliciesAdded l => exact makes_forM_id (fun x => makes_orSkip fun r => r.stock_functions_changeService ..) l
  | rolePoliciesDeleted l => exact makes_forM_id (fun x => makes_orSkip fun r => r.stock_functions_changeService ..) l
  | functionAdded d => exact makes_modify fun r => (congrArg Stock.functions (r.stock_addFunction d) :)
  | functionsDeleted names =>
    exact makes_forM
      (fun name => makes_modify fun r => (congrArg Stock.functions (r.stock_deleteFunction name) :)) names
  | listed listing => exact absurd hc id
  | replaced => exact absurd hc id

theorem makes_apply_stock (store : α) {c : Change} (hc : c.IsTold) :
    Makes Registry.stock c.restock (apply store c) := by
  intro r
  obtain ⟨r', hrun, hcontents⟩ := makes_apply store hc r
  obtain ⟨r'', hrun', hfunctions⟩ := makes_apply_functions store hc r
  obtain rfl : r' = r'' := congrArg Prod.snd (hrun.symm.trans hrun')
  refine ⟨r', hrun, ?_⟩
  rw [Change.restock, ← hfunctions]
  exact congrArg (Stock.mk · _) hcontents

end Loading

namespace Content.Overwrites
variable {m : Content → Content}

/-- Whether a rule is there afterwards is settled by the mapping, or else by whether it was there. -/
theorem within (hm : Overwrites m) (i : Item) :
    (∃ b : Prop, ∀ c, i.Within (m c).2 ↔ b) ∨ ∀ c, i.Within (m c).2 ↔ i.Within c.2 := by
  obtain ⟨f, g, hf, hg, hmc⟩ := hm
  cases i with
  | policy _ name =>
    obtain ⟨v, hv⟩ | ⟨_, rfl, hsame⟩ := hf name
    · exact .inl ⟨v.isSome, fun c => by rw [hmc, Item.Within, Dict.mem_iff_isSome, hv]⟩
    · refine .inr fun c => ?_
      rw [hmc, Item.Within, Item.Within, Dict.mem_iff_isSome, Dict.mem_iff_isSome, hsame, Option.map_id, id]
  | rolePolicy _ name =>
    obtain ⟨v, hv⟩ | ⟨_, rfl, hsame⟩ := hg name
    · exact .inl ⟨v.isSome, fun c => by rw [hmc, Item.Within, Dict.mem_iff_isSome, hv]⟩
    · refine .inr fun c => ?_
      rw [hmc, Item.Within, Item.Within, Dict.mem_iff_isSome, Dict.mem_iff_isSome, hsame, Option.map_id, id]

end Content.Overwrites

namespace Stock.Alike
variable {s t : Stock}

protected theorem refl (s : Stock) : s.Alike s := fun _ => Iff.rfl

/-- What a change leaves where depends on what was there, and on nothing that it was. -/
theorem restock (h : s.Alike t) (c : Change) : (c.restock s).Alike (c.restock t) := by
  intro x
  cases x with
  | service name =>
    obtain ⟨v, hv⟩ | ⟨m, -, hm⟩ := c.rewrites_update name
    · exact Stock.has_congr ((hv s.contents).trans (hv t.contents).symm) rfl
    · have hname := h (.service name)
      simp only [Has, Dict.mem_iff_isSome, Change.restock, hm, Option.isSome_map] at hname ⊢
      exact hname
  | item i =>
    obtain ⟨v, hv⟩ | ⟨m, hoverwrites, hm⟩ := c.rewrites_update i.service
    · exact Stock.has_congr ((hv s.contents).trans (hv t.contents).symm) rfl
    · have hmapped (u : Stock) : (c.restock u).Has (.item i) ↔
          ∃ b, u.contents.get? i.service = some b ∧ i.Within (m b).2 := by
        simp only [has_item_iff, Change.restock, hm, Option.map_eq_some_iff, exists_exists_and_eq_and]
      rw [hmapped, hmapped]
      obtain ⟨b, hb⟩ | hb := hoverwrites.within i
      · simp only [hb, exists_and_right, ← Dict.mem_iff]
        exact and_congr_left' (h (.service i.service))
      · simp only [hb, ← has_item_iff]
        exact h (.item i)
  | function name =>
    have hname := h (.function name)
    simp only [Has, Dict.mem_iff_isSome, Change.restock] at hname ⊢
    obtain ⟨v, hv⟩ | ⟨_, rfl, hsame⟩ := c.overwrites_updateFunctions name
    · rw [hv, hv]
    · rwa [hsame, hsame, Option.map_id]

end Stock.Alike

theorem FunctionTable.mem_customNames_withAll {l : List FunctionDefinition} {t : FunctionTable} {name : String} :
    name ∈ (l.foldl (fun t d => t.withCustom d.name d) t).customNames ↔
      name ∈ t.customNames ∨ name ∈ l.map (·.name) := by
  induction l generalizing t with
  | nil => simp
  | cons d l ih =>
    rw [List.foldl_cons, ih, mem_customNames_withCustom, List.map_cons, List.mem_cons]
    grind

/-- What is there after everything is read again. -/
theorem Registry.stock_reload (r : Registry) (s : Snapshot) : (r.reload s).stock = s.stock := by
  rw [stock, Snapshot.stock, contents_reload]
  refine congrArg (Stock.mk _) (NameSet.ext_mem fun name => ?_)
  have hbuiltin : name ∉ FunctionTable.builtins.customNames := by
    rw [FunctionTable.mem_customNames]
    rintro ⟨d, hd⟩
    exact FunctionTable.not_defines_builtins d ⟨name, hd⟩
  rw [NameSet.mem_ofList, NameSet.mem_ofList]
  exact FunctionTable.mem_customNames_withAll.trans (or_iff_right hbuiltin)

namespace Edit
variable {e : Edit} {s s' : Snapshot}

/-- What an edit makes of contents. -/
def revise (e : Edit) (d : Dict Content) : Dict Content :=
  match e with
  | replaceAll snapshot | listAll snapshot => snapshot.stock.contents
  | e => e.change.update d

def reviseFunctions (e : Edit) (names : NameSet) : NameSet :=
  match e with
  | replaceAll snapshot | listAll snapshot => snapshot.stock.functions
  | e => e.change.updateFunctions names

def restock (e : Edit) (s : Stock) : Stock := ⟨e.revise s.contents, e.reviseFunctions s.functions⟩

def restockAll (log : List Edit) (s : Stock) : Stock := log.foldl (fun s e => e.restock s) s

/-- A store is edited piece by piece or as a whole. -/
theorem told_or_put (e : Edit) : (e.change.IsTold ∧ ∀ s, e.restock s = e.change.restock s) ∨
    ∃ snapshot, (e = replaceAll snapshot ∨ e = listAll snapshot) ∧ ∀ s, e.restock s = snapshot.stock := by
  cases e with
  | replaceAll snapshot => exact .inr ⟨snapshot, .inl rfl, fun _ => rfl⟩
  | listAll snapshot => exact .inr ⟨snapshot, .inr rfl, fun _ => rfl⟩
  | _ => exact .inl ⟨trivial, fun _ => rfl⟩

private theorem rewrites_revise (e : Edit) : Dict.Rewrites Content.Overwrites e.revise := by
  cases e with
  | replaceAll snapshot => exact fun k => .inl ⟨snapshot.stock.contents.get? k, fun _ => rfl⟩
  | listAll snapshot => exact fun k => .inl ⟨snapshot.stock.contents.get? k, fun _ => rfl⟩
  | _ => exact Change.rewrites_update _

private theorem overwrites_reviseFunctions (e : Edit) : Dict.Overwrites e.reviseFunctions := by
  cases e with
  | replaceAll snapshot => exact fun k => .inl ⟨Dict.get? snapshot.stock.functions k, fun _ => rfl⟩
  | listAll snapshot => exact fun k => .inl ⟨Dict.get? snapshot.stock.functions k, fun _ => rfl⟩
  | _ => exact Change.overwrites_updateFunctions _

private theorem restockAll_eq (log : List Edit) (s : Stock) : restockAll log s =
    ⟨log.foldl (fun d e => e.revise d) s.contents, log.foldl (fun names e => e.reviseFunctions names) s.functions⟩ := by
  induction log generalizing s with
  | nil => rfl
  | cons e log ih => exact ih (e.restock s)

/-- Edits that are made again on their own outcome change nothing. -/
theorem restockAll_restockAll (log : List Edit) (s : Stock) :
    restockAll log (restockAll log s) = restockAll log s := by
  have hcontents := (Change.rewrites_foldl rewrites_revise log).idempotent (fun _ hm => hm.idempotent) s.contents
  have hfunctions := (Dict.Overwrites.foldl overwrites_reviseFunctions log).idempotent s.functions
  rw [restockAll_eq, restockAll_eq]
  exact congrArg₂ Stock.mk hcontents hfunctions

theorem restockAll_concat (log : List Edit) (e : Edit) (s : Stock) :
    restockAll (log ++ [e]) s = e.restock (restockAll log s) :=
  List.foldl_append ..

private theorem names_filter (l : List FunctionDefinition) (name : String) :
    NameSet.ofList ((l.filter (·.name ≠ name)).map (·.name)) = Dict.erase (NameSet.ofList (l.map (·.name))) name := by
  apply NameSet.ext_mem
  intro n
  rw [Dict.mem_erase, NameSet.mem_ofList, NameSet.mem_ofList, List.mem_map, List.mem_map]
  constructor
  · rintro ⟨d, hd, rfl⟩
    obtain ⟨hd, hne⟩ := List.mem_filter.mp hd
    exact ⟨of_decide_eq_true hne, d, hd, rfl⟩
  · rintro ⟨hne, d, hd, rfl⟩
    exact ⟨d, List.mem_filter.mpr ⟨hd, decide_eq_true hne⟩, rfl⟩

private theorem functions_apply (he : e.change.IsTold) (h : e.apply s = .ok s') :
    s'.stock.functions = e.change.updateFunctions s.stock.functions := by
  cases e with
  | createService x =>
    rw [apply] at h
    split at h
    · cases h
    · rw [← Except.ok.inj h]
      rfl
  | deleteService name =>
    obtain ⟨_, -, rfl⟩ := map_ok h
    rfl
  | createPolicy service p =>
    obtain ⟨_, -, rfl⟩ := map_ok h
    rfl
  | deletePolicy service id =>
    obtain ⟨_, -, rfl⟩ := map_ok h
    rfl
  | createRolePolicy service p =>
    obtain ⟨_, -, rfl⟩ := map_ok h
    rfl
  | deleteRolePolicy service id =>
    obtain ⟨_, -, rfl⟩ := map_ok h
    rfl
  | createFunction f =>
    obtain rfl := Except.ok.inj h
    have hnames := names_filter s.functions f.name
    rw [Snapshot.stock, List.map_append, List.map_singleton, NameSet.ofList, List.foldl_append, ← NameSet.ofList,
      hnames]
    exact Dict.insert_erase ..
  | deleteFunction name =>
    obtain ⟨l, hl, rfl⟩ := map_ok h
    rw [dropping_eq hl]
    exact names_filter s.functions name
  | replaceAll snapshot => exact absurd he id
  | listAll snapshot => exact absurd he id

/-- No name of a service is used twice in what is put into a store, and if it is listed no identifier either. -/
def IsFaithful : Edit → Prop
  | replaceAll snapshot => snapshot.Distinct
  | listAll snapshot => snapshot.Distinct ∧ snapshot.Unshared
  | _ => True

theorem stock_apply (he : e.IsFaithful) (hs : s.Distinct) (h : e.apply s = .ok s') :
    s'.Distinct ∧ s'.stock = e.restock s.stock := by
  obtain ⟨htold, hrestock⟩ | ⟨snapshot, rfl | rfl, hrestock⟩ := e.told_or_put
  · obtain ⟨hdistinct, hcontents⟩ := contents_apply htold hs h
    rw [hrestock]
    exact ⟨hdistinct, congrArg₂ Stock.mk hcontents (functions_apply htold h)⟩
  · obtain rfl := Except.ok.inj h
    exact ⟨he, rfl⟩
  · obtain rfl := Except.ok.inj h
    exact ⟨he.1, rfl⟩

end Edit

end Turnstile

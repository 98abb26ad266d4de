import Turnstile.Proofs.Registry.Contents
import Turnstile.Store.Edit

/-! What an edit does to the contents of a store, and that its announcement tells exactly this. -/
namespace Turnstile

/-- Of rules with one identifier the last one counts. -/
theorem LiveService.ofService_eq (s : Service) : ofService s =
    ⟨.ofList (s.policies.map fun p => (p.id, p)), .ofList (s.rolePolicies.map fun p => (p.id, p))⟩ := by
  have hpolicies (l : List Policy) (t : LiveService) : l.foldl addPolicy t =
      { t with policies := (l.map fun p => (p.id, p)).foldl (fun d e => d.insert e.1 e.2) t.policies } := by
    induction l generalizing t with
    | nil => rfl
    | cons p l ih =>
      rw [List.foldl_cons, ih]
      rfl
  have hrolePolicies (l : List RolePolicy) (t : LiveService) : l.foldl addRolePolicy t =
      { t with
        rolePolicies := (l.map fun p => (p.id, p)).foldl (fun d e => d.insert e.1 e.2) t.rolePolicies } := by
    induction l generalizing t with
    | nil => rfl
    | cons p l ih =>
      rw [List.foldl_cons, ih]
      rfl
  rw [ofService, hpolicies, hrolePolicies]
  rfl

namespace Change

/-- The change says itself what is new, and does not send for the store. -/
def IsTold : Change → Prop
  | listed _ | replaced => False
  | _ => True

/-- What a change that says what is new makes of contents. -/
def update (c : Change) (d : Dict Content) : Dict Content :=
  match c with
  | .serviceAdded s => d.insert s.name s.content
  | .servicesDeleted names => names.foldl .erase d
  | .policiesAdded l => l.foldl (fun d x => d.modify x.service (.addPolicy x.policy)) d
  | .policiesDeleted l => l.foldl (fun d x => d.modify x.service (.deletePolicy x.id)) d
  | .rolePoliciesAdded l => l.foldl (fun d x => d.modify x.service (.addRolePolicy x.policy)) d
  | .rolePoliciesDeleted l => l.foldl (fun d x => d.modify x.service (.deleteRolePolicy x.id)) d
  | .functionAdded _ | .functionsDeleted _ | .listed _ | .replaced => d

end Change

namespace Service
variable (s : Service)

theorem content_create (p : Policy) :
    content { s with policies := s.policies.filter (·.id ≠ p.id) ++ [p] } = s.content.addPolicy p := by
  rw [content, content, LiveService.ofService_eq, LiveService.ofService_eq, List.map_append,
    List.map_singleton, Dict.ofList_concat, Dict.ofList_map_filter_ne fun p : Policy => (p.id, p),
    Dict.insert_erase]
  rfl

theorem content_delete (id : String) :
    content { s with policies := s.policies.filter (·.id ≠ id) } = s.content.deletePolicy id := by
  rw [content, content, LiveService.ofService_eq, LiveService.ofService_eq,
    Dict.ofList_map_filter_ne fun p : Policy => (p.id, p)]
  rfl

theorem content_createRole (p : RolePolicy) :
    content { s with rolePolicies := s.rolePolicies.filter (·.id ≠ p.id) ++ [p] } =
      s.content.addRolePolicy p := by
  rw [content, content, LiveService.ofService_eq, LiveService.ofService_eq, List.map_append,
    List.map_singleton, Dict.ofList_concat, Dict.ofList_map_filter_ne fun p : RolePolicy => (p.id, p),
    Dict.insert_erase]
  rfl

theorem content_deleteRole (id : String) :
    content { s with rolePolicies := s.rolePolicies.filter (·.id ≠ id) } =
      s.content.deleteRolePolicy id := by
  rw [content, content, LiveService.ofService_eq, LiveService.ofService_eq,
    Dict.ofList_map_filter_ne fun p : RolePolicy => (p.id, p)]
  rfl

end Service

theorem map_ok {α β : Type} {x : Except Error α} {f : α → β} {b : β}
    (h : (do return f (← x)) = Except.ok b) : ∃ a, x = .ok a ∧ b = f a := by
  cases x with
  | error _ => cases h
  | ok a => exact ⟨a, rfl, (Except.ok.inj h).symm⟩

namespace Snapshot
variable {s s' : Snapshot}

/-- No two services have one name. -/
def Distinct (s : Snapshot) : Prop := (s.services.map (·.name)).Nodup

private theorem contents_filter (s : Snapshot) (name : String) :
    contents { s with services := s.services.filter (·.name ≠ name) } = s.contents.erase name :=
  Dict.ofList_map_filter_ne (fun x : Service => (x.name, x.content)) ..

/-- The first service with a name is the only one, if names are distinct. -/
private theorem changeFirst_spec {name : String} {f : Service → Except Error Service}
    {g : Content → Content} (hname : ∀ x x', f x = .ok x' → x'.name = x.name)
    (hcontent : ∀ x x', f x = .ok x' → x'.content = g x.content) {l l' : List Service}
    (hl : (l.map (·.name)).Nodup) (h : changeFirst name f l = .ok l') :
    l'.map (·.name) = l.map (·.name) ∧ Dict.ofList (l'.map fun x => (x.name, x.content)) =
      (Dict.ofList (l.map fun x => (x.name, x.content))).modify name g := by
  induction l generalizing l' with
  | nil => cases h
  | cons x l ih =>
    rw [List.map_cons, List.nodup_cons] at hl
    rw [changeFirst] at h
    by_cases hx : x.name = name
    · rw [if_pos hx] at h
      obtain ⟨x', hf, rfl⟩ := map_ok h
      have hx' := hname x x' hf
      refine ⟨by rw [List.map_cons, List.map_cons, hx'], Dict.ext_get? fun k => ?_⟩
      rw [Dict.get?_modify, List.map_cons, List.map_cons, Dict.get?_ofList_cons,
        Dict.get?_ofList_cons, hx', hcontent x x' hf, hx]
      by_cases hk : k = name
      · have hrest : (Dict.ofList (l.map fun x => (x.name, x.content))).get? k = none := by
          apply Dict.get?_ofList_eq_none
          rw [List.map_map, hk, ← hx]
          exact hl.1
        rw [hrest, if_pos hk, if_pos hk, if_pos hk]
        rfl
      · rw [if_neg hk, if_neg hk, if_neg hk]
    · rw [if_neg hx] at h
      obtain ⟨m, hm, rfl⟩ := map_ok h
      obtain ⟨hnames, hcontents⟩ := ih hl.2 hm
      refine ⟨by rw [List.map_cons, List.map_cons, hnames], Dict.ext_get? fun k => ?_⟩
      rw [Dict.get?_modify, List.map_cons, List.map_cons, Dict.get?_ofList_cons,
        Dict.get?_ofList_cons, hcontents, Dict.get?_modify]
      by_cases hk : k = name
      · have hkx : k ≠ x.name := fun hkx => hx (hkx.symm.trans hk)
        rw [if_pos hk, if_pos hk, if_neg hkx, Option.or_none, Option.or_none]
      · rw [if_neg hk, if_neg hk]

private theorem changeService_spec {name : String} {f : Service → Except Error Service}
    {g : Content → Content} (hname : ∀ x x', f x = .ok x' → x'.name = x.name)
    (hcontent : ∀ x x', f x = .ok x' → x'.content = g x.content) (hs : s.Distinct)
    (h : s.changeService name f = .ok s') :
    s'.Distinct ∧ s'.contents = s.contents.modify name g := by
  obtain ⟨l, hl, rfl⟩ := map_ok h
  obtain ⟨hnames, hcontents⟩ := changeFirst_spec hname hcontent hs hl
  refine ⟨?_, hcontents⟩
  rw [Distinct, hnames]
  exact hs

end Snapshot

namespace Edit
variable {s s' : Snapshot}

theorem dropping_eq {α : Type} {p : α → String} {k : String} {missing : Error} {l l' : List α}
    (h : dropping (p · = k) missing l = .ok l') : l' = l.filter (p · ≠ k) := by
  rw [dropping] at h
  split at h
  · rw [← Except.ok.inj h]
    simp only [decide_not]
  · cases h

/-- An edit that succeeds does what its announcement tells. -/
theorem contents_apply {e : Edit} (he : e.change.IsTold) (hs : s.Distinct) (h : e.apply s = .ok s') :
    s'.Distinct ∧ s'.contents = e.change.update s.contents := by
  cases e with
  | createService x =>
    rw [apply] at h
    split at h
    · cases h
    · next hnew =>
      obtain rfl := Except.ok.inj h
      constructor
      · rw [Snapshot.Distinct, List.map_append, List.nodup_append]
        refine ⟨hs, List.pairwise_singleton .., fun name hname other hother heq => hnew ?_⟩
        obtain ⟨y, hy, hyname⟩ := List.mem_map.mp hname
        rw [List.any_eq_true]
        exact ⟨y, hy, decide_eq_true (hyname.trans (heq.trans (List.mem_singleton.mp hother)))⟩
      · rw [Snapshot.contents, List.map_append]
        exact Dict.ofList_concat ..
  | deleteService name =>
    obtain ⟨l, hl, rfl⟩ := map_ok h
    rw [dropping_eq hl]
    exact ⟨hs.sublist (List.filter_sublist.map _), s.contents_filter name⟩
  | createPolicy service p =>
    apply Snapshot.changeService_spec ?_ ?_ hs h
    · intro x x' hx
      rw [← Except.ok.inj hx]
    · intro x x' hx
      rw [← Except.ok.inj hx, Service.content_create]
  | deletePolicy service id =>
    apply Snapshot.changeService_spec ?_ ?_ hs h
    · intro x x' hx
      obtain ⟨l, -, rfl⟩ := map_ok hx
      rfl
    · intro x x' hx
      obtain ⟨l, hl, rfl⟩ := map_ok hx
      rw [dropping_eq hl, Service.content_delete]
  | createRolePolicy service p =>
    apply Snapshot.changeService_spec ?_ ?_ hs h
    · intro x x' hx
      rw [← Except.ok.inj hx]
    · intro x x' hx
      rw [← Except.ok.inj hx, Service.content_createRole]
  | deleteRolePolicy service id =>
    apply Snapshot.changeService_spec ?_ ?_ hs h
    · intro x x' hx
      obtain ⟨l, -, rfl⟩ := map_ok hx
      rfl
    · intro x x' hx
      obtain ⟨l, hl, rfl⟩ := map_ok hx
      rw [dropping_eq hl, Service.content_deleteRole]
  | createFunction f =>
    obtain rfl := Except.ok.inj h
    exact ⟨hs, rfl⟩
  | deleteFunction name =>
    obtain ⟨l, -, rfl⟩ := map_ok h
    exact ⟨hs, rfl⟩
  | replaceAll snapshot => exact absurd he id
  | listAll snapshot => exact absurd he id

end Edit
end Turnstile

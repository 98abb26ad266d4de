import Turnstile.Proofs.Store.Contents

/-! Changes that are made again. A change of a store sets what it names and leaves the rest, so a
log that is replayed on its own outcome changes nothing. -/
namespace Turnstile

namespace Dict
variable {α : Type} {P : (α → α) → Prop} {f g : Dict α → Dict α}

/-- Under every key either something fixed is set, or what is there is mapped. -/
def Rewrites (P : (α → α) → Prop) (f : Dict α → Dict α) : Prop :=
  ∀ k, (∃ v, ∀ d, (f d).get? k = v) ∨ ∃ m, P m ∧ ∀ d, (f d).get? k = (d.get? k).map m

namespace Rewrites

protected theorem id (hid : P id) : Rewrites P id := by
  intro k
  exact .inr ⟨id, hid, fun d => by rw [Option.map_id, id, id]⟩

protected theorem insert (hid : P id) (k : String) (v : α) : Rewrites P (insert · k v) := by
  intro j
  by_cases hj : j = k
  · exact .inl ⟨some v, fun d => by rw [get?_insert, if_pos hj]⟩
  · exact .inr ⟨id, hid, fun d => by rw [get?_insert, if_neg hj, Option.map_id, id]⟩

protected theorem erase (hid : P id) (k : String) : Rewrites P (erase · k) := by
  intro j
  by_cases hj : j = k
  · exact .inl ⟨none, fun d => by rw [get?_erase, if_pos hj]⟩
  · exact .inr ⟨id, hid, fun d => by rw [get?_erase, if_neg hj, Option.map_id, id]⟩

protected theorem modify (hid : P id) {m : α → α} (hm : P m) (k : String) :
    Rewrites P (modify · k m) := by
  intro j
  by_cases hj : j = k
  · exact .inr ⟨m, hm, fun d => by rw [get?_modify, if_pos hj]⟩
  · exact .inr ⟨id, hid, fun d => by rw [get?_modify, if_neg hj, Option.map_id, id]⟩

protected theorem comp (hcomp : ∀ m n, P m → P n → P (n ∘ m)) (hg : Rewrites P g)
    (hf : Rewrites P f) : Rewrites P (g ∘ f) := by
  intro k
  obtain ⟨v, hv⟩ | ⟨n, hn, hgk⟩ := hg k
  · exact .inl ⟨v, fun d => hv (f d)⟩
  · obtain ⟨v, hv⟩ | ⟨m, hm, hfk⟩ := hf k
    · exact .inl ⟨v.map n, fun d => by rw [Function.comp_apply, hgk, hv]⟩
    · refine .inr ⟨n ∘ m, hcomp m n hm hn, fun d => ?_⟩
      rw [Function.comp_apply, hgk, hfk, Option.map_map]

protected theorem foldl {β : Type} (hid : P id) (hcomp : ∀ m n, P m → P n → P (n ∘ m))
    {f : Dict α → β → Dict α}
    (h : ∀ b, Rewrites P (f · b)) (l : List β) : Rewrites P (l.foldl f ·) := by
  induction l with
  | nil => exact .id hid
  | cons b l ih => exact ih.comp hcomp (h b)

/-- Doing it again has no effect, if mapping again has none. -/
theorem idempotent (hP : ∀ m, P m → ∀ a, m (m a) = m a) (hf : Rewrites P f) (d : Dict α) :
    f (f d) = f d := by
  apply ext_get?
  intro k
  obtain ⟨v, hv⟩ | ⟨m, hm, hfk⟩ := hf k
  · rw [hv, hv]
  · rw [hfk, hfk, Option.map_map]
    cases d.get? k with
    | none => rfl
    | some a => exact congrArg some (hP m hm a)

end Rewrites

/-- Under every key either something fixed is set, or nothing changes. -/
def Overwrites (f : Dict α → Dict α) : Prop := Rewrites (fun m => m = id) f

namespace Overwrites

protected theorem id : Overwrites (id : Dict α → Dict α) := Rewrites.id rfl

protected theorem insert (k : String) (v : α) : Overwrites (Dict.insert · k v) :=
  Rewrites.insert (P := fun m => m = id) rfl k v

protected theorem erase (k : String) : Overwrites (α := α) (Dict.erase · k) :=
  Rewrites.erase (P := fun m => m = id) rfl k

private theorem id_comp {m n : α → α} (hm : m = id) (hn : n = id) : n ∘ m = id := by
  rw [hm, hn, Function.id_comp]

protected theorem comp (hg : Overwrites g) (hf : Overwrites f) : Overwrites (g ∘ f) :=
  Rewrites.comp (fun _ _ => id_comp) hg hf

protected theorem foldl {β : Type} {f : Dict α → β → Dict α} (h : ∀ b, Overwrites (f · b)) (l : List β) :
    Overwrites (l.foldl f ·) :=
  Rewrites.foldl (P := fun m => m = id) rfl (fun _ _ => id_comp) h l

theorem idempotent (hf : Overwrites f) (d : Dict α) : f (f d) = f d := by
  apply Rewrites.idempotent ?_ hf
  intro m hm a
  rw [hm, id, id]

end Overwrites
end Dict

/-- A change of a service that sets some of its rules. -/
def Content.Overwrites (m : Content → Content) : Prop :=
  ∃ f g, Dict.Overwrites f ∧ Dict.Overwrites g ∧
    ∀ c, m c = (c.1, ⟨f c.2.policies, g c.2.rolePolicies⟩)

namespace Content.Overwrites

protected theorem id : Overwrites id :=
  ⟨id, id, .id, .id, fun _ => rfl⟩

protected theorem comp {m n : Content → Content} (hn : Overwrites n) (hm : Overwrites m) :
    Overwrites (n ∘ m) := by
  obtain ⟨f, g, hf, hg, hmc⟩ := hm
  obtain ⟨f', g', hf', hg', hnc⟩ := hn
  refine ⟨f' ∘ f, g' ∘ g, hf'.comp hf, hg'.comp hg, fun c => ?_⟩
  rw [Function.comp_apply, hmc, hnc]
  rfl

theorem idempotent {m : Content → Content} (hm : Overwrites m) (c : Content) : m (m c) = m c := by
  obtain ⟨f, g, hf, hg, hmc⟩ := hm
  rw [hmc, hmc]
  dsimp only
  rw [hf.idempotent, hg.idempotent]

theorem addPolicy (p : Policy) : Overwrites (addPolicy p) :=
  ⟨(·.insert p.id p), id, .insert p.id p, .id, fun _ => rfl⟩

theorem deletePolicy (name : String) : Overwrites (deletePolicy name) :=
  ⟨(·.erase name), id, .erase name, .id, fun _ => rfl⟩

theorem addRolePolicy (p : RolePolicy) : Overwrites (addRolePolicy p) :=
  ⟨id, (·.insert p.id p), .id, .insert p.id p, fun _ => rfl⟩

theorem deleteRolePolicy (name : String) : Overwrites (deleteRolePolicy name) :=
  ⟨id, (·.erase name), .id, .erase name, fun _ => rfl⟩

end Content.Overwrites

namespace Change

theorem rewrites_foldl {β : Type} {f : Dict Content → β → Dict Content}
    (h : ∀ b, Dict.Rewrites Content.Overwrites (f · b)) (l : List β) :
    Dict.Rewrites Content.Overwrites (l.foldl f ·) :=
  .foldl .id (fun _ _ hm hn => hn.comp hm) h l

private theorem rewrites_modifyAll {β : Type} (service : β → String) (m : β → Content → Content)
    (hm : ∀ b, Content.Overwrites (m b)) (l : List β) :
    Dict.Rewrites Content.Overwrites fun d => l.foldl (fun d b => d.modify (service b) (m b)) d := by
  have hmodify (b : β) : Dict.Rewrites Content.Overwrites fun d => d.modify (service b) (m b) :=
    .modify .id (hm b) (service b)
  exact rewrites_foldl hmodify l

/-- A change sets what it names and leaves the rest. -/
theorem rewrites_update (c : Change) : Dict.Rewrites Content.Overwrites c.update := by
  cases c with
  | serviceAdded s => exact .insert .id s.name s.content
  | servicesDeleted names => exact rewrites_foldl (fun name => .erase .id name) names
  | policiesAdded l =>
    exact rewrites_modifyAll (fun x : ServicePolicy => x.service) (fun x => Content.addPolicy x.policy)
      (fun x => .addPolicy x.policy) l
  | policiesDeleted l =>
    exact rewrites_modifyAll (fun x : ItemReference => x.service) (fun x => Content.deletePolicy x.id)
      (fun x => .deletePolicy x.id) l
  | rolePoliciesAdded l =>
    exact rewrites_modifyAll (fun x : ServiceRolePolicy => x.service) (fun x => Content.addRolePolicy x.policy)
      (fun x => .addRolePolicy x.policy) l
  | rolePoliciesDeleted l =>
    exact rewrites_modifyAll (fun x : ItemReference => x.service) (fun x => Content.deleteRolePolicy x.id)
      (fun x => .deleteRolePolicy x.id) l
  | functionAdded d => exact .id .id
  | functionsDeleted names => exact .id .id
  | listed listing => exact .id .id
  | replaced => exact .id .id

/-- What a log of changes makes of contents. -/
def replay (log : List Change) (d : Dict Content) : Dict Content :=
  log.foldl (fun d c => c.update d) d

/-- A log that is replayed on its own outcome changes nothing. -/
theorem replay_replay (log : List Change) (d : Dict Content) :
    replay log (replay log d) = replay log d :=
  (rewrites_foldl rewrites_update log).idempotent (fun _ hm => hm.idempotent) d

theorem replay_concat (log : List Change) (c : Change) (d : Dict Content) :
    replay (log ++ [c]) d = c.update (replay log d) :=
  List.foldl_append ..

end Change

open Change (replay)

/-- How what is loaded may lag behind what a store holds. The latter is the outcome of the last
events, which either are all that wait, or come after an event that has the store read again. -/
inductive Lags (held loaded : Dict Content) : List Change → Prop where
  | last (log : List Change) (told : ∀ c ∈ log, c.IsTold) (outcome : ∃ start, held = replay log start)
      (same : held = replay log loaded) : Lags held loaded log
  | reread (before log : List Change) (told : ∀ c ∈ log, c.IsTold)
      (outcome : ∃ start, held = replay log start) : Lags held loaded (before ++ .replaced :: log)

namespace Lags
variable {held loaded : Dict Content} {pending : List Change}

theorem refl (held : Dict Content) : Lags held held [] :=
  .last [] (fun _ hc => nomatch hc) ⟨held, rfl⟩ rfl

/-- Nothing is missed when nothing waits. -/
theorem eq_of_nil (h : Lags held loaded []) : held = loaded := by
  generalize hp : ([] : List Change) = pending at h
  cases h with
  | last log told outcome same => rw [same, ← hp, replay, List.foldl_nil]
  | reread before log told outcome => simp at hp

/-- The store changes, and says what is new. -/
theorem tell (h : Lags held loaded pending) {c : Change} (hc : c.IsTold) :
    Lags (c.update held) loaded (pending ++ [c]) := by
  have htold {log : List Change} (told : ∀ c ∈ log, c.IsTold) : ∀ d ∈ log ++ [c], d.IsTold := by
    intro d hd
    rcases List.mem_append.mp hd with hd | hd
    · exact told d hd
    · rwa [List.mem_singleton.mp hd]
  cases h with
  | last log told outcome same =>
    obtain ⟨start, hstart⟩ := outcome
    apply Lags.last _ (htold told) ⟨start, ?_⟩ ?_
    · rw [Change.replay_concat, hstart]
    · rw [Change.replay_concat, ← same]
  | reread before log told outcome =>
    obtain ⟨start, hstart⟩ := outcome
    rw [List.append_assoc, List.cons_append]
    apply Lags.reread before _ (htold told) ⟨start, ?_⟩
    rw [Change.replay_concat, hstart]

/-- The store changes altogether. -/
theorem replace (held loaded : Dict Content) (pending : List Change) :
    Lags held loaded (pending ++ [.replaced]) :=
  .reread pending [] (fun _ hc => nomatch hc) ⟨held, rfl⟩

/-- Events that wait are made again on what is read ahead of them, without effect. -/
theorem refresh (h : Lags held loaded pending) : Lags held held pending := by
  cases h with
  | last log told outcome same =>
    obtain ⟨start, hstart⟩ := outcome
    apply Lags.last pending told ⟨start, hstart⟩
    rw [hstart, Change.replay_replay]
  | reread before log told outcome => exact .reread before log told outcome

/-- The first event that waits is made; its effect is not known if the store is not read before the
last events. -/
theorem consume {c : Change} (h : Lags held loaded (c :: pending)) {loaded' : Dict Content}
    (htold : c.IsTold → loaded' = c.update loaded) (hreplaced : c = .replaced → loaded' = held) :
    Lags held loaded' pending := by
  generalize hp : c :: pending = waiting at h
  cases h with
  | last log told outcome same =>
    subst hp
    have hc := told c List.mem_cons_self
    obtain ⟨start, hstart⟩ := outcome
    apply Lags.last pending (fun d hd => told d (List.mem_cons_of_mem c hd)) ⟨c.update start, hstart⟩
    rw [htold hc]
    exact same
  | reread before log told outcome =>
    cases before with
    | nil =>
      obtain ⟨rfl, rfl⟩ := List.cons.inj hp
      rw [hreplaced rfl]
      obtain ⟨start, hstart⟩ := outcome
      apply Lags.last pending told ⟨start, hstart⟩
      rw [hstart, Change.replay_replay]
    | cons b before =>
      obtain ⟨rfl, rfl⟩ := List.cons.inj hp
      exact .reread before log told outcome

end Lags

end Turnstile

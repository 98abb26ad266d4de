import Mathlib.Logic.Function.Basic
import Turnstile.Proofs.Live.Convergence
import Turnstile.Proofs.Live.Items

/-! A start amid the clients of a store. What each of them does comes in two steps, with anything in between: an
evaluator reads the store and then watches it, and a client writes an edit and then announces it. What the evaluator
has in the end is settled by the order in which the edits were announced, and what the store has by the order in
which they were written. -/
namespace Turnstile

/-- How far a start has come. -/
inductive Phase where
  | unread
  | read
  | following
deriving DecidableEq

/-- An evaluator that starts, and clients of its store. -/
structure Interplay where
  store : MemoryStore
  registry : Registry := { updates := some [] }
  phase : Phase := .unread
  /-- What a client has written and is about to announce. -/
  unannounced : Nat → Option Edit := fun _ => none

namespace Interplay

inductive Action where
  | write (client : Nat) (e : Edit)
  | announce (client : Nat)
  | read
  | watch
  | consume
deriving DecidableEq

/-- Clients edit policies and role policies only. -/
def Action.IsRule : Action → Prop
  | write _ e => e.IsRule
  | _ => True

instance : (x : Action) → Decidable x.IsRule
  | .write _ e => inferInstanceAs (Decidable e.IsRule)
  | .announce _ | .read | .watch | .consume => .isTrue trivial

/-- The store after a write. An edit that fails changes nothing, and a client announces what it has written before it
writes again. -/
def written? (s : Interplay) (client : Nat) (e : Edit) : Option MemoryStore :=
  match s.unannounced client with
  | some _ => none
  | none => (s.store.write e).toOption

/-- One step of somebody, without effect if it is not its turn. -/
def step (s : Interplay) : Action → Interplay
  | .write client e =>
    match s.written? client e with
    | some store => { s with store, unannounced := Function.update s.unannounced client (some e) }
    | none => s
  | .announce client =>
    match s.unannounced client with
    | some e => { s with
        store := s.store.emit e.change
        unannounced := Function.update s.unannounced client none }
    | none => s
  | .read =>
    match s.phase with
    | .unread => { s with registry := (Loading.reload s.store s.registry).2, phase := .read }
    | _ => s
  | .watch =>
    match s.phase with
    | .read => { s with store := s.store.watch, phase := .following }
    | _ => s
  | .consume =>
    match s.phase, s.store.pending with
    | .following, event :: _ => { s with
        registry := (Loading.apply s.store event.change s.registry).2
        store := s.store.take }
    | _, _ => s

def run (actions : List Action) (s : Interplay) : Interplay := actions.foldl step s

theorem exists_apply {s : Interplay} {client : Nat} {e : Edit} {store : MemoryStore}
    (h : s.written? client e = some store) :
    ∃ snapshot, e.apply s.store.snapshot = .ok snapshot ∧ store = { s.store with snapshot } := by
  rw [written?] at h
  cases hclient : s.unannounced client with
  | some _ =>
    rw [hclient] at h
    cases h
  | none =>
    rw [hclient, MemoryStore.write] at h
    cases hsnapshot : e.apply s.store.snapshot with
    | error _ =>
      rw [hsnapshot] at h
      cases h
    | ok snapshot =>
      rw [hsnapshot] at h
      exact ⟨snapshot, rfl, (Option.some.inj h).symm⟩

/-- Nothing is left to be done. -/
structure Finished (s : Interplay) : Prop where
  announced : ∀ client, s.unannounced client = none
  following : s.phase = .following
  idle : s.store.pending = []

/-- What has become of the edits since the store was read. -/
structure Account where
  initial : Dict Content
  /-- In the order of the store. -/
  written : List Edit := []
  /-- In the order of the events, and to the evaluator only. -/
  announced : List Edit := []

/-- Keeps the account through a step. -/
def note (s : Interplay) (a : Account) : Action → Account
  | .write client e =>
    match s.written? client e with
    | some _ => { a with written := a.written ++ [e] }
    | none => a
  | .announce client =>
    match s.phase, s.unannounced client with
    | .following, some e => { a with announced := a.announced ++ [e] }
    | _, _ => a
  | .read =>
    match s.phase with
    | .unread => { initial := s.store.snapshot.contents }
    | _ => a
  | .watch | .consume => a

/-- The account of a run. -/
def account : List Action → Interplay → Account → Account
  | [], _, a => a
  | x :: actions, s, a => account actions (s.step x) (s.note a x)

/-- Before the start. -/
def opening (store : MemoryStore) : Interplay := { store }

section Uninterrupted
variable {σ : Type}

/-- An evaluator between its steps, while nobody edits its store. -/
def ofLive (l : LiveEvaluator σ MemoryStore) : Interplay where
  store := l.store
  registry := l.registry
  phase := .following

/-- A start that nothing interrupts. -/
theorem ofLive_start {config : Config} (hwatch : config.enableWatch = true) {e : Evaluator σ} {resolver : σ}
    {store : MemoryStore} {l : LiveEvaluator σ MemoryStore} (h : LiveEvaluator.start config e resolver store = .ok l) :
    ofLive l = (opening store).run [.read, .watch] := by
  obtain ⟨-, hstore, hregistry⟩ := LiveEvaluator.of_start hwatch h
  rw [ofLive, hstore, hregistry]
  rfl

/-- An edit that nothing interrupts. -/
theorem ofLive_edit (l : LiveEvaluator σ MemoryStore) (client : Nat) (e : Edit) :
    ofLive (l.step (.edit e)) = (ofLive l).run [.write client e, .announce client] := by
  have hturn : (ofLive l).written? client e = (l.store.write e).toOption := rfl
  rw [run, List.foldl_cons, List.foldl_cons, List.foldl_nil, step.eq_1, hturn, LiveEvaluator.step, MemoryStore.edit]
  cases hwrite : l.store.write e with
  | error _ => rfl
  | ok store =>
    have hquiet : Function.update (Function.update (ofLive l).unannounced client (some e)) client none =
        (ofLive l).unannounced := by
      rw [Function.update_idem]
      exact Function.update_eq_self client _
    dsimp only [Except.toOption, step]
    rw [Function.update_self, hquiet]
    rfl

theorem ofLive_consume {l : LiveEvaluator σ MemoryStore} (h : (l.running && l.follows) = true) :
    ofLive l.consume = (ofLive l).step .consume := by
  rw [LiveEvaluator.consume, if_pos h, step]
  cases hpending : l.store.pending with
  | nil =>
    have hidle : PolicyStore.pending l.store = [] := hpending
    simp only [ofLive, hidle, hpending]
  | cons event rest =>
    have hfirst : PolicyStore.pending l.store = event :: rest := hpending
    simp only [ofLive, hfirst, hpending]
    rfl

end Uninterrupted

open Change (replay)

/-- The store is as the account of what was written says, and the evaluator, once it has read the store, as far as
it has come with what was announced. -/
structure Consistent (s : Interplay) (a : Account) : Prop where
  distinct : s.store.snapshot.Distinct
  unannounced : ∀ client e, s.unannounced client = some e → e.IsRule
  written : ∀ e ∈ a.written, e.IsRule
  announced : ∀ e ∈ a.announced, e.IsRule
  held : s.store.snapshot.contents = replay (a.written.map Edit.change) a.initial
  early : s.phase ≠ .following → s.store.watcher = .absent ∧ a.announced = []
  late : s.phase = .following → ∃ events, s.store.watcher = .present events
  loaded : s.phase ≠ .unread → ∃ consumed, s.registry.contents = replay consumed a.initial ∧
    consumed ++ s.store.pending.map Event.change = a.announced.map Edit.change

namespace Consistent
variable {s : Interplay} {a : Account}

theorem opening {store : MemoryStore} (hstore : store.snapshot.Distinct) (hwatcher : store.watcher = .absent) :
    Consistent (opening store) { initial := store.snapshot.contents } where
  distinct := hstore
  unannounced _ _ h := nomatch h
  written _ h := nomatch h
  announced _ h := nomatch h
  held := rfl
  early _ := ⟨hwatcher, rfl⟩
  late h := nomatch h
  loaded h := absurd rfl h

private theorem rules_update (h : Consistent s a) (client : Nat) {value : Option Edit}
    (hvalue : ∀ e, value = some e → e.IsRule) (other : Nat) (e : Edit)
    (he : Function.update s.unannounced client value other = some e) : e.IsRule := by
  rw [Function.update_apply] at he
  split at he
  · exact hvalue e he
  · exact h.unannounced other e he

theorem write (h : Consistent s a) (client : Nat) {e : Edit} (he : e.IsRule) :
    Consistent (s.step (.write client e)) (s.note a (.write client e)) := by
  cases hwritten : s.written? client e with
  | none =>
    simp only [step, note, hwritten]
    exact h
  | some store =>
    obtain ⟨snapshot, happly, rfl⟩ := exists_apply hwritten
    obtain ⟨hdistinct, hcontents⟩ := Edit.contents_apply he.isTold h.distinct happly
    have hrules : ∀ e' ∈ a.written ++ [e], e'.IsRule :=
      List.forall_mem_append.mpr ⟨h.written, List.forall_mem_singleton.mpr he⟩
    have hheld : snapshot.contents = replay ((a.written ++ [e]).map Edit.change) a.initial := by
      rw [List.map_append, List.map_singleton, Change.replay_concat, ← h.held, hcontents]
    simp only [step, note, hwritten]
    exact ⟨hdistinct, h.rules_update client fun _ he' => Option.some.inj he' ▸ he, hrules, h.announced, hheld, h.early,
      h.late, h.loaded⟩

/-- Nobody hears of an edit before the evaluator watches the store. -/
private theorem announce_early (h : Consistent s a) (hphase : s.phase ≠ .following) {client : Nat} {e : Edit}
    (hclient : s.unannounced client = some e) :
    Consistent (s.step (.announce client)) (s.note a (.announce client)) := by
  have hnote : s.note a (.announce client) = a := by
    rw [note]
    split
    · contradiction
    · rfl
  have hemit : s.store.emit e.change = s.store := by rw [MemoryStore.emit, (h.early hphase).1]
  simp only [step, hclient, hnote, hemit]
  exact ⟨h.distinct, h.rules_update client (by simp), h.written, h.announced, h.held, h.early, h.late, h.loaded⟩

private theorem announce_late (h : Consistent s a) (hphase : s.phase = .following) {client : Nat} {e : Edit}
    (hclient : s.unannounced client = some e) :
    Consistent (s.step (.announce client)) (s.note a (.announce client)) := by
  obtain ⟨events, hevents⟩ := h.late hphase
  obtain ⟨consumed, hcontents, hconsumed⟩ := h.loaded (by simp [hphase])
  rw [MemoryStore.pending, hevents] at hconsumed
  have hrules : ∀ e' ∈ a.announced ++ [e], e'.IsRule :=
    List.forall_mem_append.mpr ⟨h.announced, List.forall_mem_singleton.mpr (h.unannounced client e hclient)⟩
  have hpending : consumed ++ (events ++ [Event.mk s.store.nextEvent e.change]).map Event.change =
      (a.announced ++ [e]).map Edit.change := by
    rw [List.map_append, List.map_append, List.map_singleton, List.map_singleton, ← List.append_assoc, hconsumed]
  simp only [step, note, hphase, hclient, MemoryStore.emit, hevents]
  exact ⟨h.distinct, h.rules_update client (by simp), h.written, hrules, h.held, fun hne => absurd rfl hne,
    fun _ => ⟨_, rfl⟩, fun _ => ⟨consumed, hcontents, hpending⟩⟩

theorem announce (h : Consistent s a) (client : Nat) :
    Consistent (s.step (.announce client)) (s.note a (.announce client)) := by
  cases hclient : s.unannounced client with
  | none =>
    have hnote : s.note a (.announce client) = a := by
      rw [note, hclient]
      split
      · contradiction
      · rfl
    simp only [step, hclient, hnote]
    exact h
  | some e =>
    by_cases hphase : s.phase = .following
    · exact h.announce_late hphase hclient
    · exact h.announce_early hphase hclient

theorem read (h : Consistent s a) : Consistent (s.step .read) (s.note a .read) := by
  cases hphase : s.phase with
  | unread =>
    obtain ⟨hwatcher, -⟩ := h.early (by simp [hphase])
    simp only [step, note, hphase]
    have hidle : s.store.pending = [] := by rw [MemoryStore.pending, hwatcher]
    exact ⟨h.distinct, h.unannounced, List.forall_mem_nil _, List.forall_mem_nil _, rfl, fun _ => ⟨hwatcher, rfl⟩,
      fun hne => absurd hne (by simp),
      fun _ => ⟨[], Registry.contents_reload .., congrArg (List.map Event.change) hidle⟩⟩
  | read =>
    simp only [step, note, hphase]
    exact h
  | following =>
    simp only [step, note, hphase]
    exact h

theorem watch (h : Consistent s a) : Consistent (s.step .watch) (s.note a .watch) := by
  cases hphase : s.phase with
  | read =>
    obtain ⟨hwatcher, hannounced⟩ := h.early (by simp [hphase])
    simp only [step, note, hphase]
    refine ⟨h.distinct, h.unannounced, h.written, h.announced, h.held, fun hne => absurd rfl hne,
      fun _ => ⟨[], rfl⟩, fun _ => ?_⟩
    obtain ⟨consumed, hcontents, hconsumed⟩ := h.loaded (by simp [hphase])
    refine ⟨consumed, hcontents, ?_⟩
    rwa [MemoryStore.pending, hwatcher] at hconsumed
  | unread =>
    simp only [step, note, hphase]
    exact h
  | following =>
    simp only [step, note, hphase]
    exact h

theorem consume (h : Consistent s a) : Consistent (s.step .consume) (s.note a .consume) := by
  by_cases hphase : s.phase = .following
  · obtain ⟨events, hevents⟩ := h.late hphase
    cases events with
    | nil =>
      simp only [step, note, hphase, MemoryStore.pending, hevents]
      exact h
    | cons event rest =>
      obtain ⟨consumed, hcontents, hconsumed⟩ := h.loaded (by simp [hphase])
      rw [MemoryStore.pending, hevents, List.map_cons] at hconsumed
      have htold : event.change.IsTold := by
        have hmem : event.change ∈ a.announced.map Edit.change := by
          rw [← hconsumed]
          exact List.mem_append_right _ List.mem_cons_self
        obtain ⟨e, he, hchange⟩ := List.mem_map.mp hmem
        rw [← hchange]
        exact (h.announced e he).isTold
      obtain ⟨r, happly, hr⟩ := Loading.makes_apply s.store htold s.registry
      simp only [step, note, hphase, MemoryStore.pending, hevents, happly, MemoryStore.take]
      refine ⟨h.distinct, h.unannounced, h.written, h.announced, h.held, fun hne => absurd rfl hne,
        fun _ => ⟨_, rfl⟩, fun _ => ⟨consumed ++ [event.change], ?_, ?_⟩⟩
      · rw [Change.replay_concat, ← hcontents]
        exact hr
      · rw [List.append_assoc]
        exact hconsumed
  · have hidle : s.step .consume = s := by
      rw [step]
      split
      · contradiction
      · rfl
    rw [hidle]
    exact h

theorem step (h : Consistent s a) {x : Action} (hx : x.IsRule) : Consistent (s.step x) (s.note a x) := by
  cases x with
  | write client e => exact h.write client hx
  | announce client => exact h.announce client
  | read => exact h.read
  | watch => exact h.watch
  | consume => exact h.consume

theorem run (h : Consistent s a) {actions : List Action} (hactions : ∀ x ∈ actions, x.IsRule) :
    Consistent (s.run actions) (account actions s a) := by
  induction actions generalizing s a with
  | nil => exact h
  | cons x actions ih =>
    exact ih (h.step (hactions x List.mem_cons_self)) fun y hy => hactions y (List.mem_cons_of_mem x hy)

/-- The store and the evaluator agree if the last words about every item do. -/
theorem contents_eq_iff (h : Consistent s a) (hphase : s.phase = .following) (hidle : s.store.pending = []) :
    s.registry.contents = s.store.snapshot.contents ↔ ∀ item : Item, item.service ∈ a.initial →
      (Edit.lastWord a.announced item).getD (item.find? a.initial) =
        (Edit.lastWord a.written item).getD (item.find? a.initial) := by
  obtain ⟨consumed, hcontents, hconsumed⟩ := h.loaded (by simp [hphase])
  rw [hidle, List.map_nil, List.append_nil] at hconsumed
  rw [hcontents, h.held, hconsumed]
  exact replay_eq_iff h.announced h.written a.initial

end Consistent

/-- However a start, the clients of the store and the evaluator interleave, in the end the evaluator has the
policies and role policies of the store if and only if, for every item, what was announced last after the store was
watched says what was written last after it was read; where nothing was, that is what was read. -/
theorem contents_finished_iff {store : MemoryStore} {actions : List Action} (distinct : store.snapshot.Distinct)
    (unwatched : store.watcher = .absent) (rules : ∀ x ∈ actions, x.IsRule)
    (finished : ((opening store).run actions).Finished) :
    let s := (opening store).run actions
    let a := account actions (opening store) { initial := store.snapshot.contents }
    s.registry.contents = s.store.snapshot.contents ↔ ∀ item : Item, item.service ∈ a.initial →
      (Edit.lastWord a.announced item).getD (item.find? a.initial) =
        (Edit.lastWord a.written item).getD (item.find? a.initial) :=
  ((Consistent.opening distinct unwatched).run rules).contents_eq_iff finished.following finished.idle

section Shop

/-- One service without rules. -/
def shop : MemoryStore := { snapshot := { services := [{ name := "library" }] } }

def grantOne : Edit := .createPolicy "library" { id := "1", effect := .grant }

def denyOne : Edit := .createPolicy "library" { id := "1", effect := .deny }

def denyTwo : Edit := .createPolicy "library" { id := "2", effect := .deny }

/-- One policy is written before the store is read, and another between that and the watch. They are announced the
other way round. -/
def straddling : List Action :=
  [.write 0 grantOne, .read, .write 1 denyTwo, .watch, .announce 1, .consume, .announce 0, .consume]

theorem finished_straddling : ((opening shop).run straddling).Finished where
  announced
    | 0 => rfl
    | 1 => rfl
    | _ + 2 => rfl
  following := rfl
  idle := rfl

/-- The order of different items does not matter. -/
theorem contents_finished_straddling : shop.snapshot.Distinct ∧ shop.watcher = .absent ∧
    (∀ x ∈ straddling, x.IsRule) ∧ ((opening shop).run straddling).Finished ∧
    ((opening shop).run straddling).registry.contents = ((opening shop).run straddling).store.snapshot.contents := by
  have distinct : shop.snapshot.Distinct := List.pairwise_singleton _ _
  have rules : ∀ x ∈ straddling, x.IsRule := by decide
  refine ⟨distinct, rfl, rules, finished_straddling, ?_⟩
  apply (contents_finished_iff distinct rfl rules finished_straddling).mpr
  intro item hservice
  let a := account straddling (opening shop) { initial := shop.snapshot.contents }
  have hwritten : a.written = [denyTwo] := rfl
  have hannounced : a.announced = [denyTwo, grantOne] := rfl
  rw [hwritten, hannounced]
  by_cases hone : item = .policy "library" "1"
  · subst hone
    decide +kernel
  · by_cases htwo : item = .policy "library" "2"
    · subst htwo
      decide +kernel
    · simp [Edit.lastWord, Edit.word?, denyTwo, grantOne, Ne.symm hone, Ne.symm htwo]

/-- A policy is written and announced after the store is read and before it is watched. -/
def missed : List Action := [.read, .write 0 denyOne, .announce 0, .watch]

/-- Two clients write one policy, and announce it the other way round. -/
def crossed : List Action :=
  [.read, .watch, .write 0 grantOne, .write 1 denyOne, .announce 1, .announce 0, .consume, .consume]

theorem finished_missed : ((opening shop).run missed).Finished where
  announced
    | 0 => rfl
    | _ + 1 => rfl
  following := rfl
  idle := rfl

theorem finished_crossed : ((opening shop).run crossed).Finished where
  announced
    | 0 => rfl
    | 1 => rfl
    | _ + 2 => rfl
  following := rfl
  idle := rfl

/-- The evaluator is left without the one policy, and with the grant that the denial has replaced. -/
theorem not_contents_finished : shop.snapshot.Distinct ∧ shop.watcher = .absent ∧
    ∀ actions ∈ [missed, crossed], (∀ x ∈ actions, x.IsRule) ∧ ((opening shop).run actions).Finished ∧
      ((opening shop).run actions).registry.contents ≠ ((opening shop).run actions).store.snapshot.contents := by
  refine ⟨List.pairwise_singleton _ _, rfl, List.forall_mem_cons.mpr ⟨?_, List.forall_mem_singleton.mpr ?_⟩⟩
  · refine ⟨by decide, finished_missed, fun h => ?_⟩
    have hone := congrArg (Item.find? · (.policy "library" "1")) h
    revert hone
    decide +kernel
  · refine ⟨by decide, finished_crossed, fun h => ?_⟩
    have hone := congrArg (Item.find? · (.policy "library" "1")) h
    revert hone
    decide +kernel

end Shop

end Interplay
end Turnstile

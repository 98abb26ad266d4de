import Turnstile.Live.Evaluator
import Turnstile.Proofs.Live.Loading
import Turnstile.Store.Memory

/-! An evaluator that follows a store in memory. However far it lags behind, and whenever it is
refreshed, it has what the store has once no event waits. -/
namespace Turnstile

namespace LiveEvaluator
variable {σ : Type}

/-- Somebody edits the store, or the evaluator does some of its work. -/
inductive Step where
  | edit (e : Edit)
  | consume
  | refresh

/-- An edit that fails leaves everything as it was. -/
def step (l : LiveEvaluator σ MemoryStore) : Step → LiveEvaluator σ MemoryStore
  | .edit e => { l with store := (l.store.edit e).toOption.getD l.store }
  | .consume => l.consume
  | .refresh => l.refresh.2

/-- The store is not compared with a listing, and no name is used twice in it. -/
def Step.IsPlain : Step → Prop
  | .edit (.replaceAll snapshot) => snapshot.Distinct
  | .edit (.listAll _) => False
  | _ => True

theorem Step.IsPlain.cases {e : Edit} (h : (Step.edit e).IsPlain) :
    e.change.IsTold ∨ ∃ snapshot, e = .replaceAll snapshot ∧ snapshot.Distinct := by
  cases e with
  | replaceAll snapshot => exact .inr ⟨snapshot, rfl, h⟩
  | listAll snapshot => exact absurd h id
  | _ => exact .inl trivial

def run (steps : List Step) (l : LiveEvaluator σ MemoryStore) : LiveEvaluator σ MemoryStore :=
  steps.foldl step l

/-- The evaluator is told of what becomes of its store. -/
structure Attached (l : LiveEvaluator σ MemoryStore) : Prop where
  running : l.running = true
  follows : l.follows = true
  watched : ∃ events, l.store.watcher = .present events

theorem edit_of_error {l : LiveEvaluator σ MemoryStore} {e : Edit} {err : Error}
    (h : e.apply l.store.snapshot = .error err) : l.step (.edit e) = l := by
  rw [step, MemoryStore.edit, MemoryStore.write, h]
  rfl

namespace Attached
variable {l : LiveEvaluator σ MemoryStore}

theorem edit_eq (h : l.Attached) {e : Edit} {snapshot : Snapshot} (happly : e.apply l.store.snapshot = .ok snapshot) :
    l.step (.edit e) = { l with store := { l.store with
      snapshot
      watcher := .present (l.store.pending ++ [⟨l.store.nextEvent, e.change⟩])
      nextEvent := l.store.nextEvent + 1 } } := by
  obtain ⟨events, hevents⟩ := h.watched
  have hpending : l.store.pending = events := by rw [MemoryStore.pending, hevents]
  rw [step, MemoryStore.edit, MemoryStore.write, happly, hpending]
  change { l with store := MemoryStore.emit { l.store with snapshot } e.change } = _
  rw [MemoryStore.emit, hevents]

theorem edit (h : l.Attached) (e : Edit) : (l.step (.edit e)).Attached := by
  cases happly : e.apply l.store.snapshot with
  | error _ =>
    rw [edit_of_error happly]
    exact h
  | ok snapshot =>
    rw [h.edit_eq happly]
    exact ⟨h.running, h.follows, _, rfl⟩

theorem refresh (h : l.Attached) : (l.step .refresh).Attached := ⟨h.running, h.follows, h.watched⟩

/-- An evaluator that has nothing to do does nothing. -/
theorem consume_idle (h : l.Attached) (hidle : l.store.pending = []) : l.consume = l := by
  have hon : (l.running && l.follows) = true := by rw [h.running, h.follows, Bool.and_self]
  have hnothing : PolicyStore.pending l.store = [] := hidle
  rw [LiveEvaluator.consume, if_pos hon, hnothing]

theorem consume_eq (h : l.Attached) {event : Event} {rest : List Event}
    (hpending : l.store.pending = event :: rest) : l.consume =
      { l with
        registry := (Loading.apply l.store event.change l.registry).2
        store := { l.store with watcher := .present rest } } := by
  have hon : (l.running && l.follows) = true := by rw [h.running, h.follows, Bool.and_self]
  obtain ⟨events, hevents⟩ := h.watched
  have htake : l.store.take = { l.store with watcher := .present rest } := by
    rw [MemoryStore.pending, hevents] at hpending
    obtain rfl : events = event :: rest := hpending
    rw [MemoryStore.take, hevents]
    rfl
  have hfirst : PolicyStore.pending l.store = event :: rest := hpending
  rw [LiveEvaluator.consume, if_pos hon, hfirst]
  exact congrArg (fun store => { l with
    registry := (Loading.apply l.store event.change l.registry).2
    store }) htake

theorem consume (h : l.Attached) : l.consume.Attached := by
  cases hpending : l.store.pending with
  | nil =>
    rw [h.consume_idle hpending]
    exact h
  | cons event rest =>
    rw [h.consume_eq hpending]
    exact ⟨h.running, h.follows, rest, rfl⟩

end Attached

/-- The evaluator follows its store, and has what it has except for what waits. -/
structure Follows (l : LiveEvaluator σ MemoryStore) : Prop extends l.Attached where
  distinct : l.store.snapshot.Distinct
  lags : Lags l.store.snapshot.contents l.registry.contents (l.store.pending.map (·.change))

/-- An evaluator that starts has read its store, and follows it if that is wanted. -/
theorem of_start {config : Config} (hwatch : config.enableWatch = true) {e : Evaluator σ} {resolver : σ}
    {store : MemoryStore} {l : LiveEvaluator σ MemoryStore} (h : start config e resolver store = .ok l) :
    l.Attached ∧ l.store = store.watch ∧ l.registry = Registry.reload { updates := some [] } store.snapshot := by
  rw [start] at h
  cases hvalid : config.validate with
  | error _ =>
    rw [hvalid] at h
    cases h
  | ok _ =>
    rw [hvalid, hwatch] at h
    obtain rfl := Except.ok.inj h
    exact ⟨⟨rfl, rfl, [], rfl⟩, rfl, rfl⟩

theorem follows_start {config : Config} (hwatch : config.enableWatch = true) {e : Evaluator σ}
    {resolver : σ} {store : MemoryStore} (hstore : store.snapshot.Distinct)
    {l : LiveEvaluator σ MemoryStore} (h : start config e resolver store = .ok l) : l.Follows := by
  obtain ⟨hattached, hread, hregistry⟩ := of_start hwatch h
  refine ⟨hattached, by rw [hread]; exact hstore, ?_⟩
  rw [hread, hregistry, Registry.contents_reload]
  exact .refl _

namespace Follows
variable {l : LiveEvaluator σ MemoryStore}

theorem edit (h : l.Follows) {e : Edit} (he : (Step.edit e).IsPlain) : (l.step (.edit e)).Follows := by
  cases happly : e.apply l.store.snapshot with
  | error _ =>
    rw [edit_of_error happly]
    exact h
  | ok snapshot =>
    have hpending : (l.store.pending ++ [Event.mk l.store.nextEvent e.change]).map Event.change =
        l.store.pending.map Event.change ++ [e.change] := List.map_append
    rw [h.edit_eq happly]
    rcases he.cases with htold | ⟨s, rfl, hs⟩
    · obtain ⟨hdistinct, hcontents⟩ := Edit.contents_apply htold h.distinct happly
      refine ⟨⟨h.running, h.follows, _, rfl⟩, hdistinct, ?_⟩
      change Lags snapshot.contents _ ((l.store.pending ++ [_]).map Event.change)
      rw [hcontents, hpending]
      exact h.lags.tell htold
    · obtain rfl := Except.ok.inj happly
      refine ⟨⟨h.running, h.follows, _, rfl⟩, hs, ?_⟩
      change Lags s.contents _ ((l.store.pending ++ [_]).map Event.change)
      rw [hpending]
      exact .replace ..

theorem refresh (h : l.Follows) : (l.step .refresh).Follows := by
  refine ⟨h.toAttached.refresh, h.distinct, ?_⟩
  change Lags l.store.snapshot.contents (l.registry.reload l.store.snapshot).contents _
  rw [Registry.contents_reload]
  exact h.lags.refresh

theorem consume (h : l.Follows) : l.consume.Follows := by
  cases hpending : l.store.pending with
  | nil =>
    rw [h.consume_idle hpending]
    exact h
  | cons event rest =>
    rw [h.consume_eq hpending]
    refine ⟨⟨h.running, h.follows, rest, rfl⟩, h.distinct, ?_⟩
    have hlags := h.lags
    rw [hpending, List.map_cons] at hlags
    apply hlags.consume
    · intro htold
      obtain ⟨r, happly, hcontents⟩ := Loading.makes_apply l.store htold l.registry
      dsimp only
      rw [happly]
      exact hcontents
    · intro hreplaced
      rw [hreplaced]
      exact Registry.contents_reload ..

/-- The evaluator can always catch up with the store. -/
theorem consumeAll (h : l.Follows) {events : List Event} (hpending : l.store.pending = events) :
    let l' := events.foldl (fun l _ => l.consume) l
    l'.Follows ∧ l'.store.pending = [] ∧ l'.store.snapshot = l.store.snapshot := by
  induction events generalizing l with
  | nil => exact ⟨h, hpending, rfl⟩
  | cons event rest ih =>
    have hrest : l.consume.store.pending = rest := by rw [h.consume_eq hpending, MemoryStore.pending]
    obtain ⟨hfollows, hidle, hsnapshot⟩ := ih h.consume hrest
    refine ⟨hfollows, hidle, hsnapshot.trans ?_⟩
    rw [h.consume_eq hpending]

/-- Nothing is missed when no event waits. -/
theorem contents_eq (h : l.Follows) (hidle : l.store.pending = []) (r : Registry) :
    l.registry.contents = (r.reload l.store.snapshot).contents := by
  have hlags := h.lags
  rw [hidle, List.map_nil] at hlags
  rw [Registry.contents_reload, hlags.eq_of_nil]

theorem step (h : l.Follows) {s : Step} (hs : s.IsPlain) : (l.step s).Follows := by
  cases s with
  | edit e => exact h.edit hs
  | consume => exact h.consume
  | refresh => exact h.refresh

/-- The evaluator goes on following its store. -/
theorem run (h : l.Follows) {steps : List Step} (hsteps : ∀ s ∈ steps, s.IsPlain) :
    (l.run steps).Follows := by
  induction steps generalizing l with
  | nil => exact h
  | cons s steps ih =>
    exact ih (h.step (hsteps s List.mem_cons_self)) fun t ht => hsteps t (List.mem_cons_of_mem s ht)

end Follows

variable {config : Config} {e : Evaluator σ} {resolver : σ} {store : MemoryStore}
  {l : LiveEvaluator σ MemoryStore} {steps : List Step}

/-- However the edits of a store and the work of an evaluator that follows it come after each other,
once no event waits the evaluator has what anyone has who reads the store just now. -/
theorem contents_run (watches : config.enableWatch = true) (distinct : store.snapshot.Distinct)
    (started : start config e resolver store = .ok l) (plain : ∀ s ∈ steps, s.IsPlain)
    (idle : (l.run steps).store.pending = []) (r : Registry) :
    (l.run steps).registry.contents = (r.reload (l.run steps).store.snapshot).contents :=
  ((follows_start watches distinct started).run plain).contents_eq idle r

/-- A service is made, gets a rule and is dropped and made again. All of this is read at once, and
then told event by event. -/
def restocking : List Step :=
  [.edit (.createService { name := "library" }),
    .edit (.createPolicy "library" { id := "1", effect := .deny }),
    .edit (.createPolicy "archive" { id := "1", effect := .deny }),
    .edit (.deleteService "library"),
    .edit (.createService { name := "library", kind := some "books" }),
    .refresh, .consume, .consume, .consume, .consume]

/-- An evaluator that follows an empty store and can reach no custom function. -/
def opened : LiveEvaluator Unit MemoryStore where
  evaluator := { resolve := fun d _ s => (.error (.customFunction d.name), s) }
  resolver := ()
  store := { watcher := .present [] }
  registry := Registry.reload { updates := some [] } {}
  sweepInterval := 1800

/-- The service that is left has no rule. -/
theorem contents_run_restocking : start {} opened.evaluator () ({} : MemoryStore) = .ok opened ∧
    (∀ s ∈ restocking, s.IsPlain) ∧ (opened.run restocking).store.pending = [] ∧
    (opened.run restocking).registry.contents =
      (Registry.reload {} (opened.run restocking).store.snapshot).contents := by
  have started : start {} opened.evaluator () ({} : MemoryStore) = .ok opened := rfl
  have distinct : ({} : MemoryStore).snapshot.Distinct := List.nodup_nil
  have plain : ∀ s ∈ restocking, s.IsPlain := by
    simp [restocking, Step.IsPlain]
  have idle : (opened.run restocking).store.pending = [] := rfl
  exact ⟨started, plain, idle, contents_run rfl distinct started plain idle {}⟩

/-- Once it has done all the work that waits, the evaluator has what its store has. -/
theorem contents_settle (watches : config.enableWatch = true) (distinct : store.snapshot.Distinct)
    (started : start config e resolver store = .ok l) (plain : ∀ s ∈ steps, s.IsPlain) (r : Registry) :
    (l.run steps).settle.registry.contents = (r.reload (l.run steps).store.snapshot).contents := by
  have h := (follows_start watches distinct started).run plain
  obtain ⟨hfollows, hidle, hsnapshot⟩ := h.consumeAll rfl
  rw [← hsnapshot, ← hfollows.contents_eq hidle r]
  exact Registry.contents_applyUpdates _

end LiveEvaluator
end Turnstile

import Turnstile.Proofs.Live.Convergence
import Turnstile.Proofs.Live.Matching
import Turnstile.Proofs.Live.Restocking

/-! An evaluator that follows a store which is also listed as a whole. What there is in the store is loaded once no
event waits, unless the last comparison with a listing has failed and the store has not been read since. -/
namespace Turnstile.LiveEvaluator
variable {σ : Type}

/-- No name of a service is used twice in what is put into the store, and if it is listed no identifier either. -/
def Step.IsFaithful : Step → Prop
  | .edit e => e.IsFaithful
  | _ => True

/-- Whether the evaluator is in order once it has heard of a change. A comparison fails if something is listed that is
neither loaded nor in the store any more. -/
def intactUpon (l : LiveEvaluator σ MemoryStore) (intact : Prop) : Change → Prop
  | .replaced => True
  | .listed listing => ∀ x, listing.Has x → l.registry.Has x ∨ l.store.snapshot.Has x
  | _ => intact

/-- Whether the evaluator is in order after a step. -/
def intactAfter (l : LiveEvaluator σ MemoryStore) (intact : Prop) : Step → Prop
  | .edit _ => intact
  | .refresh => True
  | .consume =>
    match l.store.pending with
    | [] => intact
    | event :: _ => l.intactUpon intact event.change

/-- Whether the evaluator is in order after a run. -/
def Intact : List Step → LiveEvaluator σ MemoryStore → Prop → Prop
  | [], _, intact => intact
  | s :: steps, l, intact => Intact steps (l.step s) (l.intactAfter intact s)

/-- The edits that wait lead from some stock to that of the store. An evaluator that is in order has this stock. -/
structure Tracks (l : LiveEvaluator σ MemoryStore) (intact : Prop) : Prop extends l.Attached where
  distinct : l.store.snapshot.Distinct
  waits : ∃ log start, (∀ e ∈ log, e.IsFaithful) ∧ l.store.pending.map Event.change = log.map Edit.change ∧
    l.store.snapshot.stock = Edit.restockAll log start ∧ (intact → l.registry.stock.Alike start)

theorem tracks_start {config : Config} (hwatch : config.enableWatch = true) {e : Evaluator σ} {resolver : σ}
    {store : MemoryStore} (hstore : store.snapshot.Distinct) {l : LiveEvaluator σ MemoryStore}
    (h : start config e resolver store = .ok l) : l.Tracks True := by
  obtain ⟨hattached, hread, hregistry⟩ := of_start hwatch h
  refine ⟨hattached, by rw [hread]; exact hstore, [], store.snapshot.stock, fun _ he => (nomatch he), ?_, ?_,
    fun _ => ?_⟩
  · rw [hread]
    rfl
  · rw [hread]
    rfl
  · rw [hregistry, Registry.stock_reload]
    exact .refl _

namespace Tracks
variable {l : LiveEvaluator σ MemoryStore} {intact : Prop}

theorem edit (h : l.Tracks intact) {e : Edit} (he : e.IsFaithful) : (l.step (.edit e)).Tracks intact := by
  cases happly : e.apply l.store.snapshot with
  | error _ =>
    rw [edit_of_error happly]
    exact h
  | ok snapshot =>
    obtain ⟨log, start, hlog, hpending, hheld, hloaded⟩ := h.waits
    obtain ⟨hdistinct, hstock⟩ := Edit.stock_apply he h.distinct happly
    rw [h.edit_eq happly]
    refine ⟨⟨h.running, h.follows, _, rfl⟩, hdistinct, log ++ [e], start, ?_, ?_, ?_, hloaded⟩
    · exact List.forall_mem_append.mpr ⟨hlog, List.forall_mem_singleton.mpr he⟩
    · change (l.store.pending ++ [_]).map Event.change = _
      rw [List.map_append, hpending, List.map_append]
      rfl
    · rw [Edit.restockAll_concat, ← hheld]
      exact hstock

/-- Edits that wait are made again on what is read ahead of them, without effect. -/
theorem refresh (h : l.Tracks intact) : (l.step .refresh).Tracks True := by
  obtain ⟨log, start, hlog, hpending, hheld, -⟩ := h.waits
  refine ⟨h.toAttached.refresh, h.distinct, log, l.store.snapshot.stock, hlog, hpending, ?_, fun _ => ?_⟩
  · change l.store.snapshot.stock = _
    rw [hheld, Edit.restockAll_restockAll]
  · change (l.registry.reload l.store.snapshot).stock.Alike _
    rw [Registry.stock_reload]
    exact .refl _

/-- An event that says what is new does what the edit did. -/
private theorem consume_told (h : l.Tracks intact) {event : Event} {rest : List Event} {e : Edit} {start : Stock}
    (hevents : l.store.pending = event :: rest) (hchange : event.change = e.change)
    (htold : e.change.IsTold) (hrestock : ∀ s, e.restock s = e.change.restock s)
    (hloaded : intact → l.registry.stock.Alike start) :
    l.intactAfter intact .consume → l.consume.registry.stock.Alike (e.restock start) := by
  intro hintact
  have hsame : l.intactAfter intact .consume = intact := by
    rw [intactAfter, hevents]
    dsimp only
    rw [hchange]
    cases e with
    | replaceAll _ => exact absurd htold id
    | listAll _ => exact absurd htold id
    | _ => rfl
  obtain ⟨r, happly, hstock⟩ := Loading.makes_apply_stock l.store htold l.registry
  rw [h.consume_eq hevents, hchange, happly, hrestock]
  change r.stock.Alike _
  rw [hstock]
  exact (hloaded (hsame ▸ hintact)).restock e.change

/-- A comparison that finds all that it fetches loads what was listed. -/
private theorem consume_listed (h : l.Tracks intact) {event : Event} {rest : List Event} {snapshot : Snapshot}
    (hevents : l.store.pending = event :: rest) (hchange : event.change = .listed (.ofSnapshot snapshot))
    (hsnapshot : snapshot.Distinct) (hunshared : snapshot.Unshared) :
    l.intactAfter intact .consume → l.consume.registry.stock.Alike snapshot.stock := by
  intro hintact
  rw [intactAfter, hevents] at hintact
  dsimp only at hintact
  rw [hchange] at hintact
  have hstored (x : Place) (hx : (Listing.ofSnapshot snapshot).Has x) (hnew : ¬ l.registry.stock.Has x) :
      l.store.snapshot.Has x :=
    (hintact x hx).resolve_left fun hloaded => hnew ((Registry.has_stock x).mpr hloaded)
  obtain ⟨r, happly, hplaces⟩ := Loading.leaves_synchronise h.distinct (Listing.closed_ofSnapshot hunshared) hstored
  have hr : l.consume.registry = r := by
    rw [h.consume_eq hevents, hchange]
    exact congrArg Prod.snd happly
  intro x
  rw [hr, hplaces, Listing.has_ofSnapshot hunshared, Snapshot.has_stock hsnapshot]

theorem consume (h : l.Tracks intact) : l.consume.Tracks (l.intactAfter intact .consume) := by
  cases hevents : l.store.pending with
  | nil =>
    rw [h.consume_idle hevents, intactAfter, hevents]
    exact h
  | cons event rest =>
    obtain ⟨log, start, hlog, hpending, hheld, hloaded⟩ := h.waits
    rw [hevents, List.map_cons] at hpending
    cases log with
    | nil => cases hpending
    | cons e log =>
      obtain ⟨hchange, hrest⟩ := List.cons.inj hpending
      obtain ⟨he, hlog⟩ := List.forall_mem_cons.mp hlog
      have hstore : l.consume.store = { l.store with watcher := .present rest } := by rw [h.consume_eq hevents]
      have htracks (start' : Stock) (hheld' : l.store.snapshot.stock = Edit.restockAll log start')
          (hloaded' : l.intactAfter intact .consume → l.consume.registry.stock.Alike start') :
          l.consume.Tracks (l.intactAfter intact .consume) := by
        refine ⟨h.toAttached.consume, by rw [hstore]; exact h.distinct, log, start', hlog, ?_, ?_, hloaded'⟩
        · rw [hstore]
          exact hrest
        · rw [hstore]
          exact hheld'
      obtain ⟨htold, hrestock⟩ | ⟨snapshot, rfl | rfl, hrestock⟩ := e.told_or_put
      · exact htracks _ hheld (h.consume_told hevents hchange htold hrestock hloaded)
      · apply htracks l.store.snapshot.stock
        · rw [hheld]
          exact (Edit.restockAll_restockAll log _).symm
        · intro _
          rw [h.consume_eq hevents, hchange]
          change (l.registry.reload l.store.snapshot).stock.Alike _
          rw [Registry.stock_reload]
          exact .refl _
      · exact htracks snapshot.stock hheld (h.consume_listed hevents hchange he.1 he.2)

theorem step (h : l.Tracks intact) {s : Step} (hs : s.IsFaithful) : (l.step s).Tracks (l.intactAfter intact s) := by
  cases s with
  | edit e => exact h.edit hs
  | consume => exact h.consume
  | refresh => exact h.refresh

theorem run (h : l.Tracks intact) {steps : List Step} (hsteps : ∀ s ∈ steps, s.IsFaithful) :
    (l.run steps).Tracks (Intact steps l intact) := by
  induction steps generalizing l intact with
  | nil => exact h
  | cons s steps ih =>
    exact ih (h.step (hsteps s List.mem_cons_self)) fun t ht => hsteps t (List.mem_cons_of_mem s ht)

/-- Nothing is missing, and nothing is left over, when no event waits. -/
theorem has_iff (h : l.Tracks intact) (hintact : intact) (hidle : l.store.pending = []) (x : Place) :
    l.registry.Has x ↔ l.store.snapshot.Has x := by
  obtain ⟨log, start, -, hpending, hheld, hloaded⟩ := h.waits
  rw [hidle] at hpending
  obtain rfl : log = [] := List.map_eq_nil_iff.mp hpending.symm
  rw [← Registry.has_stock, ← Snapshot.has_stock h.distinct, hheld]
  exact hloaded hintact x

end Tracks

variable {config : Config} {e : Evaluator σ} {resolver : σ} {store : MemoryStore} {l : LiveEvaluator σ MemoryStore}
  {steps : List Step}

/-- However the edits of a store and the work of an evaluator that follows it come after each other, once no event
waits the evaluator has something in just those places in which the store has something. The last comparison with a
listing must have found all that it fetched, unless the store was read afterwards. -/
theorem has_run (watches : config.enableWatch = true) (distinct : store.snapshot.Distinct)
    (started : start config e resolver store = .ok l) (faithful : ∀ s ∈ steps, s.IsFaithful)
    (intact : Intact steps l True) (idle : (l.run steps).store.pending = []) (x : Place) :
    (l.run steps).registry.Has x ↔ (l.run steps).store.snapshot.Has x :=
  ((tracks_start watches distinct started).run faithful).has_iff intact idle x

section Shelf

def shelf : Snapshot where
  functions := [{ name := "opening" }]
  services := [{
    name := "library"
    policies := [{ id := "1", effect := .grant }, { id := "2", effect := .deny }]
    rolePolicies := [{ id := "1", effect := .grant }] }]

/-- The store goes on before it is compared with its listing. -/
def relisting : List Step :=
  [.edit (.createService { name := "archive" }), .consume, .edit (.listAll shelf),
    .edit (.createPolicy "library" { id := "3", effect := .deny }), .consume, .consume]

theorem has_run_relisting : start {} opened.evaluator () ({} : MemoryStore) = .ok opened ∧
    (∀ s ∈ relisting, s.IsFaithful) ∧ Intact relisting opened True ∧ (opened.run relisting).store.pending = [] ∧
    ∀ x, (opened.run relisting).registry.Has x ↔ (opened.run relisting).store.snapshot.Has x := by
  have started : start {} opened.evaluator () ({} : MemoryStore) = .ok opened := rfl
  have distinct : ({} : MemoryStore).snapshot.Distinct := List.nodup_nil
  have unshared : shelf.Unshared := by
    constructor
    · simp [shelf]
    · simp [shelf]
  have distinctShelf : shelf.Distinct := List.pairwise_singleton _ _
  have faithful : ∀ s ∈ relisting, s.IsFaithful := by
    simp [relisting, Step.IsFaithful, Edit.IsFaithful, unshared, distinctShelf]
  have intact : Intact relisting opened True := by
    intro x hx
    have hshelf := (Listing.has_ofSnapshot unshared x).mp hx
    right
    match x with
    | .service name =>
      obtain ⟨y, hy, rfl⟩ := hshelf
      obtain rfl := List.mem_singleton.mp hy
      exact ⟨_, List.mem_singleton_self _, rfl⟩
    | .item (.policy service id) =>
      obtain ⟨y, hy, rfl, p, hp, rfl⟩ := hshelf
      obtain rfl := List.mem_singleton.mp hy
      exact ⟨_, List.mem_singleton_self _, rfl, p, List.mem_append_left _ hp, rfl⟩
    | .item (.rolePolicy service id) =>
      obtain ⟨y, hy, hi⟩ := hshelf
      obtain rfl := List.mem_singleton.mp hy
      exact ⟨_, List.mem_singleton_self _, hi⟩
    | .function name => exact hshelf
  have idle : (opened.run relisting).store.pending = [] := rfl
  exact ⟨started, faithful, intact, idle, has_run rfl distinct started faithful intact idle⟩

/-- Two services use one identifier. -/
def shared : Snapshot where
  services := [{ name := "archive", policies := [{ id := "1", effect := .grant }] },
    { name := "library", policies := [{ id := "1", effect := .deny }] }]

/-- An identifier is listed for one service only. -/
def sharing : List Step := [.edit (.listAll shared), .consume]

/-- A policy that is listed is dropped before it is fetched. -/
def vanishing : List Step :=
  [.edit (.createService { name := "library" }), .consume, .edit (.listAll shelf),
    .edit (.deletePolicy "library" "1"), .consume, .consume]

/-- The comparison ends at the policy that is gone, before anything is changed. -/
private theorem synchronise_vanishing : let l := opened.run (vanishing.take 4)
    (Loading.synchronise l.store (.ofSnapshot shelf) l.registry).2 = l.registry := by
  have hlocations : Loading.locations (Listing.ofSnapshot shelf).policies = [("library", "1"), ("library", "2")] :=
    List.mergeSort_of_pairwise (by decide)
  intro l
  rw [Loading.synchronise, hlocations]
  rfl

/-- One policy that is in the store is not loaded, since the listing lacks it or the comparison has failed. -/
theorem not_has_run : start {} opened.evaluator () ({} : MemoryStore) = .ok opened ∧
    (∀ snapshot ∈ [shelf, shared], snapshot.Distinct ∧ ∀ x ∈ snapshot.services,
      (x.policies.map (·.id)).Nodup ∧ (x.rolePolicies.map (·.id)).Nodup) ∧
    ∀ run ∈ [(sharing, Item.policy "archive" "1"), (vanishing, Item.policy "library" "2")],
      (opened.run run.1).store.pending = [] ∧ (opened.run run.1).store.snapshot.Has (.item run.2) ∧
        ¬ (opened.run run.1).registry.Has (.item run.2) := by
  have hsharing : (opened.run sharing).registry.policyLocations = [("library", "1")] := by decide +kernel
  have hvanishing : (opened.run vanishing).registry.policyLocations = [] := by
    have hcompared : (opened.run (vanishing.take 5)).registry = (opened.run (vanishing.take 4)).registry :=
      synchronise_vanishing
    have hdeleted : (opened.run vanishing).registry = (Loading.apply (opened.run (vanishing.take 5)).store
        (Edit.deletePolicy "library" "1").change (opened.run (vanishing.take 5)).registry).2 := rfl
    rw [hdeleted, hcompared]
    rfl
  refine ⟨rfl, ?_, ?_⟩
  · simp [shelf, shared, Snapshot.Distinct]
  · rintro run hrun
    rcases List.mem_pair.mp hrun with rfl | rfl
    · refine ⟨rfl, by decide, ?_⟩
      rw [Registry.Has, hsharing]
      decide
    · refine ⟨rfl, by decide, ?_⟩
      rw [Registry.Has, hvanishing]
      decide

end Shelf

end Turnstile.LiveEvaluator

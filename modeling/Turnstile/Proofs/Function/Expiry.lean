import Turnstile.Proofs.Function.Calls
import Turnstile.Proofs.History

/-! What is found of a result as time goes by. A result is found up to the second of its expiry. Looking for results
and dropping what has expired show in no answer, as they only take away what is not found any more. The expiry is a
sum of 64 bits: a result that is to stay for longer than they can tell is not found at all. -/
namespace Turnstile

namespace CachedResult
variable {r : CachedResult} {now now' : Int} {s lifetime : Int64}

theorem isLive_iff : r.isLive now = true ↔ r.expiry = 0 ∨ now ≤ r.expiry := by
  rw [isLive, Bool.or_eq_true, decide_eq_true_iff, decide_eq_true_iff]

theorem isLive_of_le (h : now ≤ now') (hlive : r.isLive now' = true) : r.isLive now = true :=
  isLive_iff.mpr ((isLive_iff.mp hlive).imp_right h.trans)

private theorem expiryAfter_eq_bmod (h : 0 < lifetime.toInt) :
    expiryAfter s.toInt lifetime = (s.toInt + lifetime.toInt).bmod (2 ^ 64) := by
  rw [expiryAfter, if_pos h, Int64.ofInt_toInt, Int64.toInt_add]

theorem expiryAfter_of_le (h : 0 < lifetime.toInt) (hfits : s.toInt + lifetime.toInt ≤ Int64.maxValue.toInt) :
    expiryAfter s.toInt lifetime = s.toInt + lifetime.toInt := by
  have hs := s.le_toInt
  rw [Int64.toInt_maxValue] at hfits
  rw [expiryAfter_eq_bmod h]
  exact Int.bmod_eq_of_le (by omega) (by omega)

/-- A sum that 64 bits do not hold becomes negative, and the time it was computed from was not. -/
theorem expiryAfter_of_lt (h : Int64.maxValue.toInt < s.toInt + lifetime.toInt) :
    expiryAfter s.toInt lifetime < 0 ∧ 0 < s.toInt := by
  have hs := s.toInt_lt
  have hlifetime := lifetime.toInt_lt
  rw [Int64.toInt_maxValue] at h
  rw [expiryAfter_eq_bmod (by omega), Int.bmod_def]
  omega

end CachedResult

namespace ResultCache

/-- How long a result is to be found. -/
inductive Term where
  /-- For some seconds, or for ever where their number is not positive. -/
  | lasting (lifetime : Int64)
  /-- Up to some second, or for ever where it is 0. -/
  | fixed (expiry : Int64)

namespace Term

/-- The last second in which a result is to be found that was inserted at some time; 0 means for ever. -/
def expiry (s : Int64) : Term → Int
  | lasting lifetime => if 0 < lifetime.toInt then s.toInt + lifetime.toInt else 0
  | fixed expiry => expiry.toInt

/-- The expiry that is kept. -/
def stored (s : Int64) : Term → Int
  | lasting lifetime => CachedResult.expiryAfter s.toInt lifetime
  | fixed expiry => expiry.toInt

variable {s : Int64} {term : Term}

theorem stored_of_le (h : term.expiry s ≤ Int64.maxValue.toInt) : term.stored s = term.expiry s := by
  cases term with
  | fixed e => rfl
  | lasting lifetime =>
    rw [expiry] at h
    rw [stored, expiry]
    split at h
    · next hpositive => rw [CachedResult.expiryAfter_of_le hpositive h, if_pos hpositive]
    · next hpositive => rw [CachedResult.expiryAfter, if_neg hpositive, if_neg hpositive]

/-- An expiry that is too late is kept as one before the insertion. -/
theorem stored_of_lt (h : Int64.maxValue.toInt < term.expiry s) : term.stored s < 0 ∧ 0 < s.toInt := by
  have hmax : Int64.maxValue.toInt = 2 ^ 63 - 1 := Int64.toInt_maxValue
  cases term with
  | fixed e =>
    have he := e.toInt_lt
    rw [expiry] at h
    omega
  | lasting lifetime =>
    rw [expiry] at h
    split at h
    · exact CachedResult.expiryAfter_of_lt h
    · omega

end Term

/-- A result that was inserted at some time. -/
@[ext]
structure Insertion where
  time : Int64
  result : Json
  term : Term

namespace Insertion

/-- The result is to be found at the time. -/
def IsDue (w : Insertion) (now : Int64) : Prop := w.term.expiry w.time = 0 ∨ now.toInt ≤ w.term.expiry w.time

/-- 64 bits hold the expiry. -/
def Fits (w : Insertion) : Prop := w.term.expiry w.time ≤ Int64.maxValue.toInt

instance (w : Insertion) (now : Int64) : Decidable (w.IsDue now) := inferInstanceAs (Decidable (_ ∨ _))

instance (w : Insertion) : Decidable w.Fits := inferInstanceAs (Decidable (_ ≤ _))

/-- What is kept of the insertion. -/
def entry (w : Insertion) : CachedResult := ⟨w.result, w.term.stored w.time⟩

variable {w : Insertion} {now : Int64}

theorem isDue_of_not_fits (h : ¬ w.Fits) : w.IsDue now := by
  have hmax : Int64.maxValue.toInt = 2 ^ 63 - 1 := Int64.toInt_maxValue
  have hnow := now.toInt_lt
  rw [Fits] at h
  exact .inr (by omega)

/-- From its insertion on, a result is live as long as it is due. One whose expiry does not fit never is. -/
theorem isLive_entry_iff (h : w.time ≤ now) : w.entry.isLive now.toInt = true ↔ w.IsDue now ∧ w.Fits := by
  rw [CachedResult.isLive_iff, entry]
  by_cases hfits : w.Fits
  · rw [Term.stored_of_le hfits, and_iff_left hfits, IsDue]
  · obtain ⟨hpast, htime⟩ := Term.stored_of_lt (not_le.mp hfits)
    have hnow := htime.trans_le (Int64.le_iff_toInt_le.mp h)
    refine iff_of_false (fun hlive => ?_) fun hboth => hfits hboth.2
    rcases hlive with hzero | hlive
    · exact hpast.ne hzero
    · exact absurd (hnow.trans_le hlive) hpast.not_gt

end Insertion

/-- What is done with a cache. -/
inductive Step where
  | insert (key : String) (result : Json) (term : Term)
  | get (key : String)
  | purge (name : String)
  | clean

def step (now : Int64) (c : ResultCache) : Step → ResultCache
  | .insert key v (.lasting lifetime) => c.insert now.toInt key v lifetime
  | .insert key v (.fixed expiry) => c.insertEntry key ⟨v, expiry.toInt⟩
  | .get key => (c.get now.toInt key).2
  | .purge name => c.purge name
  | .clean => (c.clean now.toInt).2

/-- Steps with the times at which they are done. -/
abbrev History := List (Int64 × Step)

/-- What a history makes of the empty cache. -/
def after (history : History) : ResultCache := history.foldl (fun c e => c.step e.1 e.2) {}

/-- The clock has never gone back, up to now. -/
def Ordered (history : History) (now : Int64) : Prop := (history.map (·.1) ++ [now]).Pairwise (· ≤ ·)

instance (history : History) (now : Int64) : Decidable (Ordered history now) :=
  inferInstanceAs (Decidable (List.Pairwise ..))

namespace Step

/-- What is kept under the key goes, or something else takes its place. -/
def Replaces (key : String) : Step → Prop
  | insert k _ _ => k = key
  | purge name => isCallOf name key = true
  | _ => False

instance (key : String) : (e : Step) → Decidable (e.Replaces key)
  | insert k _ _ => inferInstanceAs (Decidable (k = key))
  | purge name => inferInstanceAs (Decidable (isCallOf name key = true))
  | get _ | clean => .isFalse id

/-- The step is more than looking for a result, or dropping what has expired. -/
def isWrite : Step → Bool
  | insert _ _ _ => true
  | purge _ => true
  | _ => false

theorem Replaces.isWrite {key : String} {e : Step} (h : e.Replaces key) : e.isWrite = true := by
  cases e with
  | insert k v term => rfl
  | purge name => rfl
  | get k => exact h.elim
  | clean => exact h.elim

end Step

/-- The insertion is the last one under the key, and the results of its function have not been purged since. -/
def LastInsert (key : String) (history : History) (w : Insertion) : Prop :=
  ∃ earlier later, history = earlier ++ (w.time, .insert key w.result w.term) :: later ∧
    ∀ e ∈ later, ¬ e.2.Replaces key

variable {c c' : ResultCache} {key k : String} {history : History} {s now : Int64} {e : Step} {term : Term}
  {w w' : Insertion} {v : Json}

theorem step_insert : c.step s (.insert k v term) = c.insertEntry k (Insertion.entry ⟨s, v, term⟩) := by
  cases term with
  | lasting lifetime => rfl
  | fixed expiry => rfl

theorem ordered_concat (h : Ordered (history ++ [(s, e)]) now) : Ordered history s ∧ s ≤ now := by
  rw [Ordered, List.map_append, List.pairwise_append] at h
  exact ⟨h.1, h.2.2 s (List.mem_append_right _ (List.mem_singleton_self s)) now (List.mem_singleton_self now)⟩

theorem not_lastInsert_nil : ¬ LastInsert key [] w := fun ⟨_, _, hsplit, _⟩ =>
  List.append_ne_nil_of_right_ne_nil _ (List.cons_ne_nil _ _) hsplit.symm

theorem lastInsert_concat : LastInsert key (history ++ [(s, e)]) w ↔
    w.time = s ∧ e = .insert key w.result w.term ∨ LastInsert key history w ∧ ¬ e.Replaces key := by
  constructor
  · rintro ⟨earlier, later, hsplit, hlater⟩
    rcases concat_eq_append_cons_iff.mp hsplit with ⟨-, hs, -⟩ | ⟨later, rfl, rfl⟩
    · obtain ⟨htime, he⟩ := Prod.mk.inj hs
      exact .inl ⟨htime.symm, he⟩
    · rw [List.forall_mem_append, List.forall_mem_singleton] at hlater
      exact .inr ⟨⟨earlier, later, rfl, hlater.1⟩, hlater.2⟩
  · rintro (⟨rfl, rfl⟩ | ⟨⟨earlier, later, rfl, hlater⟩, he⟩)
    · exact ⟨history, [], rfl, fun _ hx => absurd hx List.not_mem_nil⟩
    · refine ⟨earlier, later ++ [(s, e)], concat_eq_append_cons_iff.mpr (.inr ⟨later, rfl, rfl⟩), ?_⟩
      rw [List.forall_mem_append, List.forall_mem_singleton]
      exact ⟨hlater, he⟩

theorem lastInsert_concat_insert : LastInsert key (history ++ [(s, .insert key v term)]) w ↔ w = ⟨s, v, term⟩ := by
  have hreplaces : (Step.insert key v term).Replaces key := rfl
  rw [lastInsert_concat, or_iff_left fun hbefore => hbefore.2 hreplaces, Step.insert.injEq]
  constructor
  · rintro ⟨rfl, -, rfl, rfl⟩
    rfl
  · rintro rfl
    exact ⟨rfl, rfl, rfl, rfl⟩

theorem lastInsert_concat_of_not_replaces (h : ¬ e.Replaces key) :
    LastInsert key (history ++ [(s, e)]) w ↔ LastInsert key history w := by
  rw [lastInsert_concat, and_iff_left h]
  refine or_iff_right ?_
  rintro ⟨-, rfl⟩
  exact h rfl

theorem LastInsert.time_le (h : LastInsert key history w) (hordered : Ordered history now) : w.time ≤ now := by
  obtain ⟨earlier, later, rfl, -⟩ := h
  have hmem : w.time ∈ (earlier ++ (w.time, .insert key w.result w.term) :: later).map Prod.fst :=
    List.mem_map_of_mem (List.mem_append_right _ List.mem_cons_self)
  exact (List.pairwise_append.mp hordered).2.2 _ hmem now (List.mem_singleton_self now)

theorem LastInsert.unique (h : LastInsert key history w) (h' : LastInsert key history w') : w = w' := by
  induction history using List.reverseRecOn with
  | nil => exact absurd h not_lastInsert_nil
  | append_singleton history e ih =>
    by_cases hreplaces : e.2.Replaces key
    · obtain ⟨htime, he⟩ := (lastInsert_concat.mp h).resolve_right fun hbefore => hbefore.2 hreplaces
      obtain ⟨htime', he'⟩ := (lastInsert_concat.mp h').resolve_right fun hbefore => hbefore.2 hreplaces
      obtain ⟨-, hresult, hterm⟩ := Step.insert.inj (he.symm.trans he')
      exact Insertion.ext (htime.trans htime'.symm) hresult hterm
    · exact ih ((lastInsert_concat_of_not_replaces hreplaces).mp h)
        ((lastInsert_concat_of_not_replaces hreplaces).mp h')

/-- What is not written does not count. -/
theorem lastInsert_filter : LastInsert key (history.filter fun e => e.2.isWrite) w ↔ LastInsert key history w := by
  induction history using List.reverseRecOn with
  | nil => rfl
  | append_singleton history e ih =>
    rw [List.filter_append, List.filter_singleton]
    cases hwrite : e.2.isWrite with
    | true => rw [cond_true, lastInsert_concat, lastInsert_concat, ih]
    | false =>
      have hreplaces : ¬ e.2.Replaces key := fun he => Bool.false_ne_true (hwrite.symm.trans he.isWrite)
      rw [cond_false, List.append_nil, ih, lastInsert_concat_of_not_replaces hreplaces]

theorem get?_entries_get_self (c : ResultCache) (now : Int) (key : String) :
    (c.get now key).2.entries.get? key = (c.entries.get? key).filter (·.isLive now) := by
  have hfound : c.live? now key = none ↔ (c.entries.get? key).filter (·.isLive now) = none := by
    rw [live?_eq, Option.map_eq_none_iff]
  rw [get?_entries_get]
  by_cases hnone : (c.entries.get? key).filter (·.isLive now) = none
  · rw [if_pos ⟨rfl, hfound.mpr hnone⟩, hnone]
  · obtain ⟨r, hr⟩ := Option.ne_none_iff_exists'.mp hnone
    rw [if_neg fun hboth => hnone (hfound.mp hboth.2), hr]
    exact (Option.filter_eq_some_iff.mp hr).1

theorem get?_entries_clean (c : ResultCache) (now : Int) (key : String) :
    (c.clean now).2.entries.get? key = (c.entries.get? key).filter (·.isLive now) := Dict.get?_filter ..

/-- A step that does not replace what is kept under a key drops it at most, and only when it is not live. -/
theorem get?_entries_step (h : ¬ e.Replaces key) :
    (c.step s e).entries.get? key = c.entries.get? key ∨
      (c.step s e).entries.get? key = (c.entries.get? key).filter (·.isLive s.toInt) := by
  cases e with
  | insert k v term =>
    refine .inl ?_
    rw [step_insert, insertEntry, Dict.get?_insert, if_neg fun hk => h hk.symm]
  | purge name =>
    have hcall : ¬ isCallOf name key = true := h
    refine .inl ?_
    rw [step, get?_entries_purge, if_neg hcall]
  | get k =>
    by_cases hk : key = k
    · subst hk
      exact .inr (get?_entries_get_self ..)
    · refine .inl ?_
      rw [step, get?_entries_get, if_neg fun hboth => hk hboth.1]
  | clean => exact .inr (get?_entries_clean ..)

/-- What is kept under the key is what was inserted last, and it stays as long as it is live. -/
structure Follows (key : String) (history : History) (now : Int64) (c : ResultCache) : Prop where
  inserted : ∀ r, c.entries.get? key = some r → ∃ w, LastInsert key history w ∧ w.entry = r
  stays : ∀ w, LastInsert key history w → w.entry.isLive now.toInt = true → c.entries.get? key = some w.entry

namespace Follows

theorem mono (h : Follows key history s c) (hle : s ≤ now) : Follows key history now c where
  inserted := h.inserted
  stays w hw hlive := h.stays w hw (CachedResult.isLive_of_le (Int64.le_iff_toInt_le.mp hle) hlive)

theorem insert (history : History) (s : Int64) (c : ResultCache) (v : Json) (term : Term) :
    Follows key (history ++ [(s, .insert key v term)]) s (c.step s (.insert key v term)) where
  inserted r hr := by
    rw [step_insert, insertEntry, Dict.get?_insert, if_pos rfl] at hr
    exact ⟨_, lastInsert_concat_insert.mpr rfl, Option.some.inj hr⟩
  stays w hw _ := by
    rw [lastInsert_concat_insert.mp hw, step_insert, insertEntry, Dict.get?_insert, if_pos rfl]

theorem purge {name : String} (hname : isCallOf name key = true) (history : History) (s : Int64) (c : ResultCache) :
    Follows key (history ++ [(s, .purge name)]) s (c.purge name) where
  inserted r hr := by
    rw [get?_entries_purge, if_pos hname] at hr
    cases hr
  stays w hw _ := by
    rcases lastInsert_concat.mp hw with ⟨-, he⟩ | ⟨-, he⟩
    · cases he
    · exact absurd hname he

/-- The other steps leave what is kept under the key, or drop it as it is not live. -/
theorem of_not_replaces (h : Follows key history s c) (he : ¬ e.Replaces key)
    (hget : c'.entries.get? key = c.entries.get? key ∨
      c'.entries.get? key = (c.entries.get? key).filter (·.isLive s.toInt)) :
    Follows key (history ++ [(s, e)]) s c' where
  inserted r hr := by
    have hbefore : c.entries.get? key = some r := by
      rcases hget with hsame | hfilter
      · exact hsame.symm.trans hr
      · exact (Option.filter_eq_some_iff.mp (hfilter.symm.trans hr)).1
    obtain ⟨w, hw, rfl⟩ := h.inserted r hbefore
    exact ⟨w, (lastInsert_concat_of_not_replaces he).mpr hw, rfl⟩
  stays w hw hlive := by
    have hbefore := h.stays w ((lastInsert_concat_of_not_replaces he).mp hw) hlive
    rcases hget with hsame | hfilter
    · exact hsame.trans hbefore
    · exact hfilter.trans (Option.filter_eq_some_iff.mpr ⟨hbefore, hlive⟩)

theorem step (h : Follows key history s c) (e : Step) : Follows key (history ++ [(s, e)]) s (c.step s e) := by
  by_cases hreplaces : e.Replaces key
  · cases e with
    | insert k v term =>
      obtain rfl : k = key := hreplaces
      exact insert history s c v term
    | purge name => exact purge hreplaces history s c
    | get k => exact hreplaces.elim
    | clean => exact hreplaces.elim
  · exact h.of_not_replaces hreplaces (get?_entries_step hreplaces)

end Follows

theorem follows_after (h : Ordered history now) (key : String) : Follows key history now (after history) := by
  induction history using List.reverseRecOn generalizing now with
  | nil =>
    exact ⟨fun _ hr => absurd hr (Option.not_mem_none _), fun _ hw => absurd hw not_lastInsert_nil⟩
  | append_singleton history e ih =>
    obtain ⟨hbefore, hle⟩ := ordered_concat h
    rw [after, List.foldl_append]
    exact ((ih hbefore).step e.2).mono hle

theorem get_after_iff (h : Ordered history now) :
    ((after history).get now.toInt key).1 = some v ↔
      ∃ w, LastInsert key history w ∧ w.result = v ∧ w.IsDue now ∧ w.Fits := by
  have hfollows := follows_after h key
  change (after history).live? now.toInt key = some v ↔ _
  rw [live?_eq, Option.map_eq_some_iff]
  constructor
  · rintro ⟨r, hr, rfl⟩
    obtain ⟨hr, hlive⟩ := Option.filter_eq_some_iff.mp hr
    obtain ⟨w, hw, rfl⟩ := hfollows.inserted r hr
    exact ⟨w, hw, rfl, (Insertion.isLive_entry_iff (hw.time_le h)).mp hlive⟩
  · rintro ⟨w, hw, rfl, hdue⟩
    have hlive := (Insertion.isLive_entry_iff (hw.time_le h)).mpr hdue
    exact ⟨w.entry, Option.filter_eq_some_iff.mpr ⟨hfollows.stays w hw hlive, hlive⟩, rfl⟩

/-- One insertion whose expiry does not fit is enough: it is due, and it is not found. -/
theorem get_after_iff_due_iff (h : Ordered history now) :
    (∀ v, ((after history).get now.toInt key).1 = some v ↔
        ∃ w, LastInsert key history w ∧ w.result = v ∧ w.IsDue now) ↔
      ∀ w, LastInsert key history w → w.Fits := by
  constructor
  · intro hexact w hw
    by_contra hlong
    have hfound := (hexact w.result).mpr ⟨w, hw, rfl, Insertion.isDue_of_not_fits hlong⟩
    obtain ⟨w', hw', -, -, hfits⟩ := (get_after_iff h).mp hfound
    exact hlong (hw.unique hw' ▸ hfits)
  · intro hfits v
    rw [get_after_iff h]
    refine exists_congr fun w => and_congr_right fun hw => ?_
    rw [and_iff_left (hfits w hw)]

/-- Answers depend on what is written only. -/
theorem get_after_congr {history' : History} (h : Ordered history now) (h' : Ordered history' now)
    (hwrites : (history'.filter fun e => e.2.isWrite) = history.filter fun e => e.2.isWrite) (key : String) :
    ((after history').get now.toInt key).1 = ((after history).get now.toInt key).1 := by
  refine Option.ext fun v => ?_
  rw [get_after_iff h', get_after_iff h]
  refine exists_congr fun w => and_congr_left fun _ => ?_
  rw [← lastInsert_filter, hwrites, lastInsert_filter]

/-- What is dropped is counted. -/
theorem clean_fst (c : ResultCache) (now : Int) :
    (c.clean now).1 = c.entries.keys.countP fun k => !(c.clean now).2.entries.contains k := by
  have hdropped : ∀ e ∈ c.entries.entries,
      decide (¬ e.2.isLive now = true) = true ↔ (!(c.clean now).2.entries.contains e.1) = true := by
    intro e he
    rw [Dict.contains, get?_entries_clean, (Dict.mem_entries_iff ..).mp he, Option.filter_some]
    cases e.2.isLive now <;> simp
  have hsum : c.entries.entries.length = c.entries.entries.countP (fun e => e.2.isLive now) +
      c.entries.entries.countP (fun e => decide (¬ e.2.isLive now = true)) :=
    List.length_eq_countP_add_countP _
  rw [List.countP_eq_length_filter] at hsum
  rw [Dict.keys, List.countP_map]
  exact (Nat.sub_eq_of_eq_add' hsum).trans (List.countP_congr hdropped)

/-- A result is found exactly as long as the last insertion under its key is due, unless the expiry is too late for
64 bits. Such a result is not found, from the very second in which it was inserted. Dropping what has expired and
looking for results change no answer, wherever they are done in the history, and every result that is dropped is
counted. -/
theorem get_exact_iff (history : History) (now : Int64) (h : Ordered history now) :
    (∀ key v, ((after history).get now.toInt key).1 = some v ↔
      ∃ w, LastInsert key history w ∧ w.result = v ∧ w.IsDue now ∧ w.Fits) ∧
    (∀ key, (∀ v, ((after history).get now.toInt key).1 = some v ↔
        ∃ w, LastInsert key history w ∧ w.result = v ∧ w.IsDue now) ↔
      ∀ w, LastInsert key history w → w.Fits) ∧
    (∀ history', Ordered history' now →
      (history'.filter fun e => e.2.isWrite) = history.filter (fun e => e.2.isWrite) →
      ∀ key, ((after history').get now.toInt key).1 = ((after history).get now.toInt key).1) ∧
    ∀ c : ResultCache,
      (c.clean now.toInt).1 = (c.entries.keys.countP fun k => !(c.clean now.toInt).2.entries.contains k) ∧
      ∀ key r, (c.clean now.toInt).2.entries.get? key = some r ↔
        c.entries.get? key = some r ∧ r.isLive now.toInt = true := by
  refine ⟨fun key v => get_after_iff h, fun key => get_after_iff_due_iff h,
    fun history' h' hwrites => get_after_congr h h' hwrites, fun c => ⟨clean_fst c _, fun key r => ?_⟩⟩
  rw [get?_entries_clean, Option.filter_eq_some_iff]

/-- A result that is good for ten seconds and one that is good for ever, with a look and two sweeps in between. -/
def tides : History := [
  (100, .insert "Tide(1)" (.int 4) (.lasting 10)),
  (100, .insert "Tide(2)" (.bool true) (.lasting 0)),
  (105, .clean),
  (110, .get "Tide(1)"),
  (110, .clean)]

theorem get_exact_iff_tides : Ordered tides 110 ∧
    ((after tides).get 110 "Tide(1)").1 = some (.int 4) ∧
    ((after (tides.filter fun e => e.2.isWrite)).get 110 "Tide(1)").1 = some (.int 4) ∧
    ((after tides).get 111 "Tide(1)").1 = none := by
  have hordered : Ordered tides 110 := by decide +kernel
  obtain ⟨hfound, -, hwrites, -⟩ := get_exact_iff tides 110 hordered
  have hlater : ∀ e ∈ tides.tail, ¬ e.2.Replaces "Tide(1)" := by decide +kernel
  have hyes : ((after tides).get 110 "Tide(1)").1 = some (.int 4) :=
    (hfound "Tide(1)" (.int 4)).mpr
      ⟨⟨100, .int 4, .lasting 10⟩, ⟨[], tides.tail, rfl, hlater⟩, rfl, by decide, by decide⟩
  refine ⟨hordered, hyes, ?_, by decide +kernel⟩
  exact (hwrites _ (by decide +kernel) rfl _).trans hyes

/-- A result that is to be good for as many seconds as can be told is not found in the second in which it is
inserted. -/
theorem not_get_exact_overlong :
    let w : Insertion := ⟨1750000000, .bool true, .lasting Int64.maxValue⟩
    let history : History := [(w.time, .insert "f(1)" w.result w.term)]
    Ordered history w.time ∧ LastInsert "f(1)" history w ∧ w.IsDue w.time ∧
      ((after history).get w.time.toInt "f(1)").1 ≠ some w.result := by
  exact ⟨by decide, ⟨[], [], rfl, nofun⟩, by decide, by decide +kernel⟩

end ResultCache
end Turnstile

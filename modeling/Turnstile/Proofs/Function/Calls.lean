import Turnstile.Function.Call
import Turnstile.Proofs.Dict
import Turnstile.Proofs.Function.Key

/-! Calls of functions that are computed without regard to any state. The results that are kept then make no
difference: as long as the functions of one name answer alike, no call changes the answer of another one. -/
namespace Turnstile

namespace ResultCache
variable {c : ResultCache} {now now' : Int} {key k : String} {v : Json}

/-- The result that is found at a time. -/
def live? (c : ResultCache) (now : Int) (key : String) : Option Json := (c.get now key).1

theorem live?_eq (c : ResultCache) (now : Int) (key : String) :
    c.live? now key = ((c.entries.get? key).filter (·.isLive now)).map (·.result) := by
  rw [live?, get]
  cases c.entries.get? key with
  | none => rfl
  | some r => by_cases hlive : r.isLive now = true <;> simp [hlive]

/-- Looking for a result leaves the others as they are, and drops the one that is looked for at most. -/
theorem get?_entries_get (c : ResultCache) (now : Int) (key k : String) :
    (c.get now key).2.entries.get? k =
      if k = key ∧ c.live? now key = none then none else c.entries.get? k := by
  rw [live?_eq, get]
  cases hkey : c.entries.get? key with
  | none =>
    by_cases hk : k = key
    · simp [hk, hkey]
    · simp [hk]
  | some r => by_cases hlive : r.isLive now = true <;> simp [hlive, Dict.get?_erase]

theorem live?_congr {c' : ResultCache} (h : c.entries.get? k = c'.entries.get? k) (now : Int) :
    c.live? now k = c'.live? now k := by
  rw [live?_eq, live?_eq, h]

theorem live?_insert (c : ResultCache) (now now' : Int) (key k : String) (v : Json) (lifetime : Int64) :
    (∃ expiry, (c.insert now key v lifetime).entries.get? key = some ⟨v, expiry⟩) ∧
      (k ≠ key → (c.insert now key v lifetime).live? now' k = c.live? now' k) := by
  constructor
  · exact ⟨_, by rw [insert, insertEntry, Dict.get?_insert, if_pos rfl]⟩
  · intro hk
    exact live?_congr (by rw [insert, insertEntry, Dict.get?_insert, if_neg hk]) now'

theorem get?_entries_purge (c : ResultCache) (name key : String) :
    (c.purge name).entries.get? key = if isCallOf name key then none else c.entries.get? key := by
  rw [purge, Dict.get?_filter]
  cases isCallOf name key with
  | true => simp
  | false => cases c.entries.get? key <;> rfl

end ResultCache

variable {σ : Type} {resolve : Resolver σ} {answers : FunctionDefinition → List Json → Except Error Json}

/-- What is computed depends on the function and the arguments only. -/
def Resolver.IsPure (resolve : Resolver σ) (answers : FunctionDefinition → List Json → Except Error Json) :
    Prop :=
  ∀ d args s, (resolve d args s).1 = answers d args

namespace FunctionDefinition
variable {d d' : FunctionDefinition} {now now' : Int} {args args' : List Json} {s : σ × ResultCache}
  {k : String} {v : Json}

/-- The result of a call that is kept at a time. -/
def kept? (d : FunctionDefinition) (now : Int) (args : List Json) (c : ResultCache) : Option Json :=
  c.live? now (ResultCache.key d.name args)

theorem call_of_kept (h : d.kept? now args s.2 = some v) : d.call resolve now args s =
    (.ok v, s.1, (s.2.get now (ResultCache.key d.name args)).2) := by
  obtain ⟨resolver, c⟩ := s
  rw [kept?, ResultCache.live?] at h
  rw [call]
  generalize c.get now (ResultCache.key d.name args) = found at h ⊢
  obtain ⟨result, c'⟩ := found
  obtain rfl := h
  rfl

/-- What a call that finds nothing leaves in the cache. -/
def record (d : FunctionDefinition) (now : Int) (args : List Json) (result : Except Error Json)
    (c : ResultCache) : ResultCache :=
  match result with
  | .error _ => c
  | .ok v => if d.cachable then c.insert now (ResultCache.key d.name args) v d.lifetime else c

theorem call_of_not_kept (h : d.kept? now args s.2 = none) : d.call resolve now args s =
    ((resolve d args s.1).1, (resolve d args s.1).2, d.record now args (resolve d args s.1).1
      (s.2.get now (ResultCache.key d.name args)).2) := by
  obtain ⟨resolver, c⟩ := s
  rw [kept?, ResultCache.live?] at h
  rw [call]
  generalize c.get now (ResultCache.key d.name args) = found at h ⊢
  obtain ⟨result, c'⟩ := found
  obtain rfl := h
  dsimp only
  generalize resolve d args resolver = computed
  obtain ⟨result, resolver'⟩ := computed
  cases result with
  | error e => rfl
  | ok v => rfl

theorem call_fst (pure : resolve.IsPure answers) (d : FunctionDefinition) (now : Int) (args : List Json)
    (s : σ × ResultCache) : (d.call resolve now args s).1 =
      ((d.kept? now args s.2).map Except.ok).getD (answers d args) := by
  cases h : d.kept? now args s.2 with
  | some v => rw [call_of_kept h, Option.map_some, Option.getD_some]
  | none => rw [call_of_not_kept h, pure, Option.map_none, Option.getD_none]

/-- A call leaves the results of other calls as they are. -/
theorem live?_call_of_ne (hk : k ≠ ResultCache.key d.name args) (now' : Int) :
    (d.call resolve now args s).2.2.live? now' k = s.2.live? now' k := by
  have hget : (s.2.get now (ResultCache.key d.name args)).2.live? now' k = s.2.live? now' k := by
    apply ResultCache.live?_congr
    rw [ResultCache.get?_entries_get, if_neg fun h => hk h.1]
  cases h : d.kept? now args s.2 with
  | some v =>
    rw [call_of_kept h]
    exact hget
  | none =>
    rw [call_of_not_kept h]
    refine Eq.trans ?_ hget
    rw [record.eq_def]
    split
    · rfl
    · split
      · exact (ResultCache.live?_insert _ now now' _ k _ _).2 hk
      · rfl

/-- A call that finds its result kept leaves it; otherwise what is kept afterwards was computed by a function
whose results may be kept. -/
theorem kept?_call (resolve : Resolver σ) (d : FunctionDefinition) (now now' : Int) (args : List Json)
    (s : σ × ResultCache) :
    d.kept? now' args (d.call resolve now args s).2.2 = d.kept? now' args s.2 ∨
      d.kept? now args s.2 = none ∧ ∀ v, d.kept? now' args (d.call resolve now args s).2.2 = some v →
        d.cachable ∧ (resolve d args s.1).1 = .ok v := by
  cases h : d.kept? now args s.2 with
  | some v =>
    refine .inl ?_
    rw [call_of_kept h]
    apply ResultCache.live?_congr
    rw [ResultCache.get?_entries_get, if_neg]
    rintro ⟨-, hnone⟩
    cases h.symm.trans hnone
  | none =>
    refine .inr ⟨rfl, fun v hv => ?_⟩
    rw [call_of_not_kept h] at hv
    have hdropped : (s.2.get now (ResultCache.key d.name args)).2.live? now'
        (ResultCache.key d.name args) = none := by
      rw [ResultCache.live?_eq, ResultCache.get?_entries_get, if_pos ⟨rfl, h⟩]
      rfl
    rw [kept?, record.eq_def] at hv
    split at hv
    · cases hdropped.symm.trans hv
    · next v' hresult =>
      split at hv
      · next hcachable =>
        obtain ⟨expiry, hentry⟩ := (ResultCache.live?_insert
          (s.2.get now (ResultCache.key d.name args)).2 now now' (ResultCache.key d.name args)
          (ResultCache.key d.name args) v' d.lifetime).1
        rw [ResultCache.live?_eq, hentry] at hv
        obtain ⟨r, hr, rfl⟩ := Option.map_eq_some_iff.mp hv
        obtain ⟨hr, -⟩ := Option.filter_eq_some_iff.mp hr
        obtain rfl := Option.some.inj hr
        exact ⟨hcachable, hresult⟩
      · cases hdropped.symm.trans hv

end FunctionDefinition

/-- At some times the calls of some functions have answers that are known. -/
def Settled (resolve : Resolver σ) (used : FunctionDefinition → Prop) (times : Int → Prop)
    (value : FunctionDefinition → List Json → Except Error Json) (s : σ × ResultCache) : Prop :=
  ∀ d, used d → ∀ now, times now → ∀ args, (d.call resolve now args s).1 = value d args

/-- The functions of one name answer alike. -/
def AnswerAlike (answers : FunctionDefinition → List Json → Except Error Json)
    (used : FunctionDefinition → Prop) : Prop :=
  ∀ d d', used d → used d' → d.name = d'.name → ∀ args, answers d args = answers d' args

namespace Settled
variable {used : FunctionDefinition → Prop} {times : Int → Prop}
  {value : FunctionDefinition → List Json → Except Error Json} {s : σ × ResultCache}

/-- No call changes the answer of another one. -/
theorem call (pure : resolve.IsPure answers) (alike : AnswerAlike answers used)
    (h : Settled resolve used times value s) {d : FunctionDefinition} (hd : used d) {now : Int}
    (hnow : times now) (args : List Json) :
    Settled resolve used times value (d.call resolve now args s).2 := by
  intro d' hd' now' hnow' args'
  have hbefore := h d' hd' now' hnow' args'
  rw [FunctionDefinition.call_fst pure] at hbefore ⊢
  by_cases hkey : ResultCache.key d'.name args' = ResultCache.key d.name args
  · obtain ⟨hname, rfl⟩ := ResultCache.key_inj hkey
    have hkept (now : Int) (c : ResultCache) : d'.kept? now args' c = d.kept? now args' c := by
      rw [FunctionDefinition.kept?, FunctionDefinition.kept?, hname]
    rw [hkept] at hbefore ⊢
    rcases FunctionDefinition.kept?_call resolve d now now' args' s with hsame | ⟨hnone, hcomputed⟩
    · rw [hsame]
      exact hbefore
    · -- Nothing was kept for the other function, either: it answers what is computed.
      have hanswer := h d' hd' now hnow args'
      rw [FunctionDefinition.call_fst pure, hkept, hnone, Option.map_none, Option.getD_none] at hanswer
      cases hafter : d.kept? now' args' (d.call resolve now args' s).2.2 with
      | none =>
        rw [Option.map_none, Option.getD_none]
        exact hanswer
      | some v =>
        rw [Option.map_some, Option.getD_some, ← hanswer, alike d' d hd' hd hname, ← pure d args' s.1]
        exact (hcomputed v hafter).2.symm
  · have hother : d'.kept? now' args' (d.call resolve now args s).2.2 = d'.kept? now' args' s.2 :=
      FunctionDefinition.live?_call_of_ne hkey now'
    rw [hother]
    exact hbefore

/-- Where the answers are those that would be computed, results may be dropped, and functions without any
results may be used as well. -/
theorem of_kept? (pure : resolve.IsPure answers) (h : Settled resolve used times answers s)
    {used' : FunctionDefinition → Prop} {t : σ × ResultCache}
    (hkept : ∀ d, used' d → ∀ now args, d.kept? now args t.2 = none ∨
      used d ∧ d.kept? now args t.2 = d.kept? now args s.2) :
    Settled resolve used' times answers t := by
  intro d hd now hnow args
  rw [FunctionDefinition.call_fst pure]
  rcases hkept d hd now args with hnone | ⟨hused, hsame⟩
  · rw [hnone]
    rfl
  · have hbefore := h d hused now hnow args
    rw [FunctionDefinition.call_fst pure] at hbefore
    rw [hsame]
    exact hbefore

end Settled

namespace FunctionDefinition
variable {d : FunctionDefinition} {now : Int} {args : List Json} {c : ResultCache}

theorem kept?_empty : d.kept? now args {} = none := by
  rw [kept?, ResultCache.live?_eq]
  rfl

theorem kept?_purge (name : String) :
    d.kept? now args (c.purge name) = none ∨ d.kept? now args (c.purge name) = d.kept? now args c := by
  have hentry := c.get?_entries_purge name (ResultCache.key d.name args)
  split at hentry
  · refine .inl ?_
    rw [kept?, ResultCache.live?_eq, hentry]
    rfl
  · exact .inr (ResultCache.live?_congr hentry now)

/-- The results of a function go when those of its name do. -/
theorem kept?_purge_self : d.kept? now args (c.purge d.name) = none := by
  rw [kept?, ResultCache.live?_eq, ResultCache.get?_entries_purge, if_pos (ResultCache.isCallOf_key_self ..)]
  rfl

end FunctionDefinition

namespace FunctionTable
variable {t : FunctionTable} {d : FunctionDefinition}

/-- The table has the custom function, under some name. -/
def Defines (t : FunctionTable) (d : FunctionDefinition) : Prop :=
  ∃ name, Dict.get? t name = some (.custom d)

/-- Custom functions stand under their own names. -/
def Named (t : FunctionTable) : Prop :=
  ∀ name d, Dict.get? t name = some (.custom d) → d.name = name

theorem Named.get? (h : t.Named) (hd : t.Defines d) : Dict.get? t d.name = some (.custom d) := by
  obtain ⟨name, hname⟩ := hd
  rw [h name d hname, hname]

/-- A table has one function of a name at most. -/
theorem Named.answerAlike (h : t.Named) : AnswerAlike answers t.Defines := by
  intro d d' hd hd' hname args
  have hsame := (h.get? hd).symm.trans ((congrArg (Dict.get? t) hname).trans (h.get? hd'))
  rw [Function.custom.inj (Option.some.inj hsame)]

theorem not_defines_builtins (d : FunctionDefinition) : ¬ builtins.Defines d := by
  intro hd
  obtain ⟨name, hname⟩ := hd
  have hnone : builtins.customNames = [] := by decide +kernel
  have hlisted : name ∈ builtins.customNames :=
    List.mem_filterMap.mpr ⟨(name, .custom d), (Dict.mem_entries_iff ..).mpr hname, rfl⟩
  rw [hnone] at hlisted
  cases hlisted

theorem named_builtins : builtins.Named :=
  fun name d hd => absurd ⟨name, hd⟩ (not_defines_builtins d)

theorem get?_withCustom (t : FunctionTable) (name : String) (d : FunctionDefinition) (n : String) :
    Dict.get? (t.withCustom name d) n = if n = name then some (.custom d) else Dict.get? t n :=
  Dict.get?_insert ..

theorem Named.withCustom (h : t.Named) (d : FunctionDefinition) : (t.withCustom d.name d).Named := by
  intro name d' hd'
  rw [get?_withCustom] at hd'
  split at hd'
  · next hname =>
    rw [← Function.custom.inj (Option.some.inj hd'), hname]
  · exact h name d' hd'

theorem get?_withoutCustom {name n : String} {f : Function}
    (h : Dict.get? (t.withoutCustom name) n = some f) : Dict.get? t n = some f := by
  rw [withoutCustom] at h
  split at h
  · rw [Dict.get?_erase] at h
    split at h
    · cases h
    · exact h
  · exact h

theorem Named.withoutCustom (h : t.Named) (name : String) : (t.withoutCustom name).Named :=
  fun n d hd => h n d (get?_withoutCustom hd)

end FunctionTable
end Turnstile

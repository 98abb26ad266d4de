import Turnstile.Proofs.Function.Calls

/-! What functions have computed. A log of everything that is computed shows where a result comes from: one that
is kept for a function was computed for it since its results were dropped last. -/
namespace Turnstile
variable {σ : Type}

/-- What was computed for a function and arguments. -/
structure Computed where
  definition : FunctionDefinition
  args : List Json
  result : Except Error Json

/-- Computes the same, and logs it. -/
def Resolver.recording (resolve : Resolver σ) : Resolver (σ × List Computed) := fun d args (s, log) =>
  let (result, t) := resolve d args s
  (result, t, log ++ [⟨d, args, result⟩])

namespace FunctionDefinition
variable (resolve : Resolver σ) (d : FunctionDefinition) (now : Int) (args : List Json)
  (s : (σ × List Computed) × ResultCache)

/-- The log does not change what is computed. -/
theorem call_recording : (d.call resolve.recording now args s).1 = (d.call resolve now args (s.1.1, s.2)).1 ∧
    (d.call resolve.recording now args s).2.1.1 = (d.call resolve now args (s.1.1, s.2)).2.1 ∧
      (d.call resolve.recording now args s).2.2 = (d.call resolve now args (s.1.1, s.2)).2.2 := by
  cases h : d.kept? now args s.2 with
  | some v =>
    have h' : d.kept? now args ((s.1.1, s.2) : σ × ResultCache).2 = some v := h
    rw [call_of_kept h, call_of_kept h']
    exact ⟨rfl, rfl, rfl⟩
  | none =>
    have h' : d.kept? now args ((s.1.1, s.2) : σ × ResultCache).2 = none := h
    rw [call_of_not_kept h, call_of_not_kept h']
    exact ⟨rfl, rfl, rfl⟩

/-- A call is computed if its result is not kept. -/
theorem log_call : (d.call resolve.recording now args s).2.1.2 = s.1.2 ++
    if d.kept? now args s.2 = none then [⟨d, args, (resolve d args s.1.1).1⟩] else [] := by
  cases h : d.kept? now args s.2 with
  | some v =>
    rw [call_of_kept h, if_neg (Option.some_ne_none v), List.append_nil]
  | none =>
    rw [call_of_not_kept h, if_pos rfl]
    rfl

end FunctionDefinition

/-- What is kept for the functions was computed for them since a time, and may be kept. The times are given by
what had been logged. -/
def Backed (used : FunctionDefinition → Prop) (since : FunctionDefinition → List Computed)
    (s : (σ × List Computed) × ResultCache) : Prop :=
  ∀ d, used d → ∃ new, s.1.2 = since d ++ new ∧
    ∀ now args v, d.kept? now args s.2 = some v → d.cachable ∧ ⟨d, args, .ok v⟩ ∈ new

namespace Backed
variable {resolve : Resolver σ} {used : FunctionDefinition → Prop} {since : FunctionDefinition → List Computed}
  {s : (σ × List Computed) × ResultCache} {d : FunctionDefinition} {now : Int} {args : List Json}

/-- Calls keep what has been computed only. -/
theorem call (h : Backed used since s) (distinct : ∀ d d', used d → used d' → d.name = d'.name → d = d')
    (hd : used d) (now : Int) (args : List Json) :
    Backed used since (d.call resolve.recording now args s).2 := by
  intro d' hd'
  obtain ⟨new, hlog, hkept⟩ := h d' hd'
  refine ⟨new ++ if d.kept? now args s.2 = none then [⟨d, args, (resolve d args s.1.1).1⟩] else [], ?_,
    fun now' args' v hv => ?_⟩
  · rw [FunctionDefinition.log_call, hlog, List.append_assoc]
  · by_cases hkey : ResultCache.key d'.name args' = ResultCache.key d.name args
    · obtain ⟨hname, rfl⟩ := ResultCache.key_inj hkey
      obtain rfl := distinct d' d hd' hd hname
      rcases FunctionDefinition.kept?_call resolve.recording d' now now' args' s with hsame | ⟨hnone, hcomputed⟩
      · rw [hsame] at hv
        obtain ⟨hcachable, hmem⟩ := hkept now' args' v hv
        exact ⟨hcachable, List.mem_append_left _ hmem⟩
      · obtain ⟨hcachable, hresult⟩ := hcomputed v hv
        have hcall : (resolve d' args' s.1.1).1 = .ok v := hresult
        rw [if_pos hnone, hcall]
        exact ⟨hcachable, List.mem_append_right _ List.mem_cons_self⟩
    · have hother : d'.kept? now' args' (d.call resolve.recording now args s).2.2 =
          d'.kept? now' args' s.2 := FunctionDefinition.live?_call_of_ne hkey now'
      rw [hother] at hv
      obtain ⟨hcachable, hmem⟩ := hkept now' args' v hv
      exact ⟨hcachable, List.mem_append_left _ hmem⟩

/-- The value of a call was computed; if nothing was computed during the call, the function may be kept. -/
theorem of_call (h : Backed used since s) (hd : used d) {v : Json} {t : (σ × List Computed) × ResultCache}
    (hcall : d.call resolve.recording now args s = (.ok v, t)) :
    ∃ new, t.1.2 = since d ++ new ∧ ⟨d, args, .ok v⟩ ∈ new ∧ (t.1.2 = s.1.2 → d.cachable) := by
  obtain ⟨new, hlog, hkept⟩ := h d hd
  cases hfound : d.kept? now args s.2 with
  | some w =>
    rw [FunctionDefinition.call_of_kept hfound] at hcall
    cases hcall
    obtain ⟨hcachable, hmem⟩ := hkept now args v hfound
    exact ⟨new, hlog, hmem, fun _ => hcachable⟩
  | none =>
    have hlater := FunctionDefinition.log_call resolve d now args s
    rw [FunctionDefinition.call_of_not_kept hfound] at hcall
    obtain ⟨hresult, ht⟩ := Prod.ext_iff.mp hcall
    have hcomputed : (resolve d args s.1.1).1 = .ok v := hresult
    rw [FunctionDefinition.call_of_not_kept hfound, ht, if_pos hfound, hcomputed] at hlater
    refine ⟨new ++ [⟨d, args, .ok v⟩], ?_, List.mem_append_right _ List.mem_cons_self, fun hnothing => ?_⟩
    · rw [hlater, hlog, List.append_assoc]
    · rw [hnothing] at hlater
      have hlength := congrArg List.length hlater
      rw [List.length_append, List.length_singleton] at hlength
      omega

/-- Results may be dropped, and functions without any results may be used from now on. -/
theorem of_kept? (h : Backed used since s) {used' : FunctionDefinition → Prop}
    {since' : FunctionDefinition → List Computed} {results : ResultCache}
    (hkept : ∀ d, used' d → since' d = s.1.2 ∧ (∀ now args, d.kept? now args results = none) ∨
      used d ∧ since' d = since d ∧ ∀ now args v, d.kept? now args results = some v →
        d.kept? now args s.2 = some v) :
    Backed used' since' (s.1, results) := by
  intro d hd
  rcases hkept d hd with ⟨hsince, hnone⟩ | ⟨hused, hsince, hsame⟩
  · refine ⟨[], by rw [hsince, List.append_nil], fun now args v hv => ?_⟩
    cases (hnone now args).symm.trans hv
  · obtain ⟨new, hlog, hold⟩ := h d hused
    exact ⟨new, hlog.trans (congrArg (· ++ new) hsince.symm),
      fun now args v hv => hold now args v (hsame now args v hv)⟩

end Backed
end Turnstile

import Mathlib.Data.List.Chain
import Turnstile.Proofs.Role.Outcome
import Turnstile.Proofs.Role.Search

/-! The rounds of a resolution, which end by themselves. Grants spread until a round finds no role that is new, and
denials take effect until none is safe; both loops are told without a bound, and the bounds that they have turn out
to be large enough. -/
namespace Turnstile
open RoleResolution
variable {τ : Type} {source : RoleSource (StateM τ)} {policies : List RolePolicy}

/-- The source with a record of what it is asked about. -/
def RoleSource.recording (source : RoleSource (StateM τ)) : RoleSource (StateM (τ × List (List String))) where
  size := source.size
  query principals seen := fun (t, log) =>
    let (answer, t) := source.query principals seen t
    (answer, t, log ++ [principals])

namespace RoleResolution
variable {s s' : RoleResolution} {fresh : List String} {t t' : τ} {asked : List (List String)}

section Spreading

/-- Grants spread until a round finds no new role. The rounds are listed with the roles that they ask about. -/
inductive Spreads (source : RoleSource (StateM τ)) :
    RoleResolution → List String → τ → List (List String) → RoleResolution → τ → Prop where
  | done (s : RoleResolution) (t : τ) : Spreads source s [] t [] s t
  | round {s next s' : RoleResolution} {fresh more : List String} {t t₁ t' : τ} {answer : MatchedRolePolicies}
      {asked : List (List String)} (new : fresh ≠ [])
      (query : source.query (fresh.map Role.principal) s.seen t = (answer, t₁))
      (grants : s.applyGrants answer.granted = (next, more)) (rest : Spreads source next more t₁ asked s' t') :
      Spreads source s fresh t (fresh :: asked) s' t'

/-- Every round asks about some role. -/
theorem Spreads.length_le (h : Spreads source s fresh t asked s' t') : asked.length ≤ asked.flatten.length := by
  induction h with
  | done => exact Nat.le_refl _
  | round new _ _ _ ih =>
    have hpos := List.length_pos_of_ne_nil new
    rw [List.length_cons, List.flatten_cons, List.length_append]
    omega

/-- What one round grants is new in the next one, and only there. -/
private theorem granted_round {ps : List RolePolicy} {next : RoleResolution} {more : List String}
    (grants : s.applyGrants ps = (next, more)) :
    (∀ r, r ∈ next.granted ↔ r ∈ s.granted ∨ r ∈ more) ∧ more.Nodup ∧
      ∀ r ∈ more, r ∉ s.granted := by
  have hgranted := (advances_applyGrants s fun _ hp => hp : Advances ps s (s.applyGrants ps).1 _).granted
  have hnew := nodup_applyGrants s ps
  rw [grants] at hgranted hnew
  exact ⟨hgranted, hnew⟩

/-- Grants stay, and a role that comes to be granted is asked about in one round. -/
theorem Spreads.asked_spec (h : Spreads source s fresh t asked s' t') (hfresh : ∀ r ∈ fresh, r ∈ s.granted)
    (hnodup : fresh.Nodup) : (∀ r ∈ s.granted, r ∈ s'.granted) ∧ asked.flatten.Nodup ∧
      ∀ r, r ∈ asked.flatten ↔ r ∈ fresh ∨ r ∈ s'.granted ∧ r ∉ s.granted := by
  induction h with
  | done s t => simp
  | @round s next s' fresh more t t₁ t' answer asked _ _ grants _ ih =>
    obtain ⟨hgranted, hmore, hnew⟩ := granted_round grants
    obtain ⟨hstay, hrest, hasked⟩ := ih (fun r hr => (hgranted r).mpr (.inr hr)) hmore
    have hlater (r : String) (hr : r ∈ asked.flatten) : r ∉ s.granted := by
      rcases (hasked r).mp hr with hr | ⟨-, hr⟩
      · exact hnew r hr
      · exact fun hm => hr ((hgranted r).mpr (.inl hm))
    refine ⟨fun r hr => hstay r ((hgranted r).mpr (.inl hr)), ?_, fun r => ?_⟩
    · rw [List.flatten_cons]
      exact List.nodup_append.mpr ⟨hnodup, hrest, fun r hr _ hr' he => hlater r (he ▸ hr') (hfresh r hr)⟩
    · have hold : r ∈ more → r ∈ s'.granted := fun hr => hstay r ((hgranted r).mpr (.inr hr))
      have hr := hnew r
      rw [List.flatten_cons, List.mem_append, hasked, hgranted]
      tauto

/-- With a round for each policy that has not been seen, grants spread to the end, and a record of the queries shows
the rounds. -/
theorem spreads_expand
    (answered : ∀ principals seen t, ∀ p ∈ (source.query principals seen t).1.granted, p ∈ policies)
    {n : Nat} (hn : fresh = [] ∨ unseen policies s < n) (t : τ) (log : List (List String)) :
    ∃ asked, Spreads source s fresh t asked (s.expand source n fresh t).1 (s.expand source n fresh t).2 ∧
      s.expand source.recording n fresh (t, log) = ((s.expand source n fresh t).1, (s.expand source n fresh t).2,
        log ++ asked.map (·.map Role.principal)) := by
  induction n generalizing s fresh t log with
  | zero =>
    obtain rfl := hn.resolve_right (Nat.not_lt_zero _)
    refine ⟨[], .done s t, ?_⟩
    rw [List.map_nil, List.append_nil]
    rfl
  | succ n ih =>
    cases fresh with
    | nil =>
      refine ⟨[], .done s t, ?_⟩
      rw [List.map_nil, List.append_nil]
      rfl
    | cons r fresh =>
      have hn := hn.resolve_left (List.cons_ne_nil r fresh)
      have ha := advances_applyGrants s (answered ((r :: fresh).map Role.principal) s.seen t)
      have hless := or_iff_not_imp_left.mpr fun hne => Nat.lt_of_lt_of_le (unseen_lt ha hne) (Nat.le_of_lt_succ hn)
      obtain ⟨asked, hasked, hlog⟩ := ih hless (source.query ((r :: fresh).map Role.principal) s.seen t).2
        (log ++ [(r :: fresh).map Role.principal])
      refine ⟨(r :: fresh) :: asked, .round (List.cons_ne_nil r fresh) rfl rfl hasked, ?_⟩
      rw [List.map_cons, List.append_cons]
      exact hlog

end Spreading

section Settlement

/-- Some roles are lost, and none is won. -/
def Shrinks (before after : NameSet) : Prop := (∀ r ∈ after, r ∈ before) ∧ ∃ r ∈ before, r ∉ after

/-- Denials take effect until none is safe any more, and then those that are left do. The rounds are listed with the
roles that are granted when they begin. -/
inductive Settles : RoleResolution → List NameSet → RoleResolution → Prop where
  | last {s : RoleResolution} (ends : s.safe = []) : Settles s [s.granted] s.settleRest
  | round {s s' : RoleResolution} {rounds : List NameSet} (goes : s.safe ≠ []) (rest : Settles s.settleSafe rounds s') :
      Settles s (s.granted :: rounds) s'

variable {rounds : List NameSet}

/-- The first of the safe denials in a round is of a role that is granted. -/
theorem shrinks_settleSafe (hb : s.Bounded) (hs : s.safe ≠ []) : Shrinks s.granted s.settleSafe.granted := by
  obtain ⟨r, hr⟩ := List.exists_mem_of_ne_nil _ hs
  refine ⟨fun a ha => (mem_granted_of_foldl_deny ha).1, r, hb r (mem_safe.mp hr).1, fun hm => ?_⟩
  exact (mem_granted_of_foldl_deny hm).2 hr

theorem Settles.head?_eq (h : Settles s rounds s') : rounds.head? = some s.granted := by
  cases h with
  | last => rfl
  | round => rfl

theorem Settles.isChain (h : Settles s rounds s') (hb : s.Bounded) : rounds.IsChain Shrinks := by
  induction h with
  | last => exact .singleton _
  | @round s s' rounds goes rest ih =>
    refine List.isChain_cons.mpr ⟨fun after hafter => ?_, ih bounded_settleSafe⟩
    rw [rest.head?_eq] at hafter
    cases hafter
    exact shrinks_settleSafe hb goes

theorem Settles.length_le (h : Settles s rounds s') (hb : s.Bounded) : rounds.length ≤ s.granted.size + 1 := by
  induction h with
  | last => exact Nat.le_add_left ..
  | @round s s' rounds goes rest ih =>
    have hlt := size_settleSafe_lt hb (mt List.isEmpty_iff.mp goes)
    exact Nat.succ_le_succ ((ih bounded_settleSafe).trans hlt)

/-- With a round for each granted role, denials take effect to the end. -/
theorem settles_settle {n : Nat} (hb : s.Bounded) (hn : s.granted.size < n) :
    ∃ rounds, Settles s rounds (s.settle n) := by
  induction n generalizing s with
  | zero => exact absurd hn (Nat.not_lt_zero _)
  | succ n ih =>
    rw [settle]
    split
    · next hs => exact ⟨_, .last (List.isEmpty_iff.mp hs)⟩
    · next hs =>
      have hlt := size_settleSafe_lt hb hs
      obtain ⟨rounds, hrounds⟩ := ih bounded_settleSafe (Nat.lt_of_lt_of_le hlt (Nat.le_of_lt_succ hn))
      exact ⟨_, .round (mt List.isEmpty_iff.mpr hs) hrounds⟩

end Settlement
end RoleResolution

/-- A resolution to which nothing sets a bound: the grants to what is presented, the rounds in which grants spread,
the denials that are collected then, and the rounds in which these take effect. -/
inductive RoleSource.Resolves (source : RoleSource (StateM τ)) (presented : List String) (t : τ) :
    List (List String) → RoleResolution → List NameSet → NameSet → Prop where
  | intro {direct matched : MatchedRolePolicies} {first s denying settled : RoleResolution} {fresh : List String}
      {t₁ t₂ t₃ : τ} {asked : List (List String)} {rounds : List NameSet}
      (presents : source.query presented (start presented).seen t = (direct, t₁))
      (grants : ((start presented).applyDenies direct.denied).applyGrants direct.granted = (first, fresh))
      (spreads : Spreads source first fresh t₁ asked s t₂)
      (collects : source.query (s.granted.toList.map Role.principal) s.seen t₂ = (matched, t₃))
      (denies : s.applyDenies matched.denied = denying)
      (settles : Settles { denying with graph := denying.graph.restrict denying.granted } rounds settled) :
      Resolves source presented t asked { denying with graph := denying.graph.restrict denying.granted } rounds
        settled.granted

section Bounds
variable {presented : List String} {t : τ} {asked : List (List String)} {s : RoleResolution} {rounds : List NameSet}
  {result : NameSet}

/-- Every role that is granted before denials take effect is asked about in one round, and nothing else is. -/
theorem RoleSource.Resolves.asked_spec (h : source.Resolves presented t asked s rounds result) :
    asked.flatten.Nodup ∧ ∀ r, r ∈ asked.flatten ↔ r ∈ s.granted := by
  cases h with
  | @intro direct matched first s denying settled fresh t₁ t₂ t₃ _ _ _ grants spreads _ denies _ =>
    obtain ⟨hgranted, hnodup, -⟩ := granted_round grants
    have hfirst (r : String) : r ∈ first.granted ↔ r ∈ fresh := by
      rw [hgranted, granted_applyDenies]
      exact or_iff_right (Dict.not_mem_empty r)
    obtain ⟨hstay, hasked, hmem⟩ := spreads.asked_spec (fun r hr => (hfirst r).mpr hr) hnodup
    have hdenying : denying.granted = s.granted := denies ▸ granted_applyDenies s matched.denied
    refine ⟨hasked, fun r => ?_⟩
    have hr := hstay r
    rw [hmem, hdenying]
    rw [hfirst] at hr ⊢
    tauto

/-- No more rounds ask than there are roles to ask about. -/
theorem RoleSource.Resolves.length_asked_le (h : source.Resolves presented t asked s rounds result) :
    asked.length ≤ s.granted.size := by
  obtain ⟨hnodup, hmem⟩ := h.asked_spec
  have hperm : asked.flatten.Perm s.granted.toList :=
    (List.perm_ext_iff_of_nodup hnodup (Dict.nodup_keys _)).mpr fun r => (hmem r).trans NameSet.mem_toList.symm
  have hsize : asked.flatten.length = s.granted.size := hperm.length_eq.trans (List.length_map ..)
  rw [← hsize]
  cases h with
  | intro _ _ spreads => exact spreads.length_le

theorem RoleSource.Resolves.settles (h : source.Resolves presented t asked s rounds result) :
    ∃ settled : RoleResolution, Settles s rounds settled ∧ settled.granted = result := by
  cases h with
  | intro _ _ _ _ _ settles => exact ⟨_, settles, rfl⟩

/-- The amounts of fuel of a resolution are large enough. -/
theorem RoleSource.resolves_resolve (size : policies.length ≤ source.size)
    (answered : ∀ principals seen t, ∀ p ∈ (source.query principals seen t).1.granted, p ∈ policies)
    (bounded : (source.gather presented t).1.Bounded) :
    ∃ asked rounds,
      source.Resolves presented t asked (source.gather presented t).1 rounds (source.resolve presented t).1 ∧
      (source.recording.resolve presented (t, [])).2.2 = presented :: asked.map (·.map Role.principal) ++
        [(source.gather presented t).1.granted.toList.map Role.principal] := by
  let direct := source.query presented (start presented).seen t
  let first := ((start presented).applyDenies direct.1.denied).applyGrants direct.1.granted
  have hfuel : first.2 = [] ∨ unseen policies first.1 < source.size + 1 :=
    .inr (Nat.lt_succ_of_le ((List.length_filter_le ..).trans size))
  obtain ⟨asked, spreads, hlog⟩ := spreads_expand answered hfuel direct.2 [presented]
  obtain ⟨rounds, settles⟩ := settles_settle bounded (Nat.lt_succ_self _)
  refine ⟨asked, rounds, .intro rfl rfl spreads rfl rfl settles, ?_⟩
  let s := (first.1.expand source (source.size + 1) first.2 direct.2).1
  have hrun : (source.recording.resolve presented (t, [])).2.2 =
      let e := first.1.expand source.recording (source.size + 1) first.2 (direct.2, [presented])
      e.2.2 ++ [e.1.granted.toList.map Role.principal] := rfl
  have hgranted : (source.gather presented t).1.granted = s.granted := granted_applyDenies ..
  rw [hrun, hgranted]
  dsimp only
  rw [hlog]
  rfl

end Bounds

/-- A resolution ends by itself, whatever circles of grants and denials there are. It asks once about what is
presented, then in rounds about each role that is granted, once, and last about all of them. Each round of safe
denials loses a role. The searches in a role graph end by themselves, too. -/
theorem resolve_rounds (distinct : (policies.map (·.id)).Nodup) (serves : source.Serves policies)
    (presented : List String) (t : τ) :
    let s := (source.gather presented t).1
    let log := (source.recording.resolve presented (t, [])).2.2
    (∃ asked rounds, source.Resolves presented t asked s rounds (source.resolve presented t).1 ∧
      log = presented :: asked.map (·.map Role.principal) ++ [s.granted.toList.map Role.principal] ∧
      log.length ≤ s.granted.size + 2 ∧
      (∀ role ∈ s.granted, asked.flatten.count role = 1) ∧ (∀ role ∈ asked.flatten, role ∈ s.granted) ∧
      rounds.length ≤ s.granted.size + 1 ∧ rounds.IsChain Shrinks) ∧
    (∀ (g : RoleGraph) (role : String) (denied : NameSet),
      g.isUnsupported role denied = g.deniedUpwards denied .empty role) ∧
    ∀ (g : RoleGraph) (role : String) (fuel : Nat), g.size < fuel →
      (g.deniableFrom fuel role (.ofList [role])).1 = g.deniableDescendants role := by
  have answered (principals : List String) (seen : NameSet) (t : τ) (p : RolePolicy)
      (hp : p ∈ (source.query principals seen t).1.granted) : p ∈ policies :=
    ((serves.granted principals seen t p).mp hp).1
  have bounded := (collected_gather distinct serves presented t).bounded
  obtain ⟨asked, rounds, hresolves, hlog⟩ := RoleSource.resolves_resolve serves.size answered bounded
  obtain ⟨hnodup, hasked⟩ := hresolves.asked_spec
  obtain ⟨settled, hsettles, -⟩ := hresolves.settles
  refine ⟨⟨asked, rounds, hresolves, hlog, ?_, fun role hrole => ?_, fun role => (hasked role).mp,
    hsettles.length_le bounded, hsettles.isChain bounded⟩, RoleGraph.isUnsupported_eq_deniedUpwards,
    fun _ _ _ => RoleGraph.deniableDescendants_eq⟩
  · rw [hlog, List.length_append, List.length_cons, List.length_map, List.length_singleton]
    exact Nat.add_le_add_right hresolves.length_asked_le 2
  · exact List.count_eq_one_of_mem hnodup ((hasked role).mpr hrole)

/-- Two roles grant each other, and two deny each other. -/
def whirl : List RolePolicy :=
  [{ id := "1", effect := .grant, roles := ["a"], principals := ["user:ann"] },
    { id := "2", effect := .grant, roles := ["b"], principals := ["role:a"] },
    { id := "3", effect := .grant, roles := ["a", "c"], principals := ["role:b"] },
    { id := "4", effect := .deny, roles := ["b"], principals := ["role:c"] },
    { id := "5", effect := .deny, roles := ["c"], principals := ["role:b"] }]

theorem resolve_rounds_whirl : (whirl.map (·.id)).Nodup ∧ (RoleSource.ofList whirl).Serves whirl ∧
    ((RoleSource.ofList whirl).recording.resolve ["user:ann"] ((), [])).2.2 =
      [["user:ann"], ["role:a"], ["role:b"], ["role:c"], ["role:a", "role:b", "role:c"]] ∧
    ∃ asked rounds, (RoleSource.ofList whirl).Resolves ["user:ann"] () asked
        ((RoleSource.ofList whirl).gather ["user:ann"] ()).1 rounds
        ((RoleSource.ofList whirl).resolve ["user:ann"] ()).1 ∧
      asked.flatten.count "a" = 1 ∧ rounds.length ≤ 4 ∧ rounds.IsChain Shrinks := by
  have hgranted : ((RoleSource.ofList whirl).gather ["user:ann"] ()).1.granted = .ofList ["a", "b", "c"] := by
    decide +kernel
  obtain ⟨asked, rounds, hresolves, -, -, honce, -, hlength, hchain⟩ :=
    (resolve_rounds (by decide) (RoleSource.ofList_serves whirl) ["user:ann"] ()).1
  refine ⟨by decide, RoleSource.ofList_serves whirl, by decide +kernel, asked, rounds, hresolves, ?_, ?_, hchain⟩
  · apply honce
    rw [hgranted]
    decide
  · rw [hgranted] at hlength
    exact hlength

end Turnstile

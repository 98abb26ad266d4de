import Turnstile.Proofs.Evaluation.Truth
import Turnstile.Proofs.Registry.Contents

/-! Services of one content, asked side by side. Their indexes, the conditions that are kept for them and the
results of functions may differ: while the answers of calls are settled, what is found out is the same. -/
namespace Turnstile
variable {σ τ α β γ δ : Type}

namespace Agree
variable {R : σ → τ → Prop}

protected theorem pure (a : α) : Agree R (pure a) (pure a) := fun _ _ h => ⟨rfl, h⟩

protected theorem bind {x : StateM σ α} {y : StateM τ α} {f : α → StateM σ β} {g : α → StateM τ β}
    (h : Agree R x y) (hf : ∀ a, Agree R (f a) (g a)) : Agree R (x >>= f) (y >>= g) := by
  intro s t hst
  obtain ⟨hresult, hstates⟩ := h s t hst
  have hnext := hf (x s).1 _ _ hstates
  change (f (x s).1 (x s).2).1 = (g (y t).1 (y t).2).1 ∧ R (f (x s).1 (x s).2).2 (g (y t).1 (y t).2).2
  rw [← hresult]
  exact hnext

protected theorem get {f : σ → StateM σ α} {g : τ → StateM τ α}
    (h : ∀ s t, R s t → Agree R (f s) (g t)) : Agree R (get >>= f) (get >>= g) :=
  fun s t hst => h s t hst s t hst

protected theorem foldlM {T : γ → δ → Prop} {l : List γ} {m : List δ} (h : List.Forall₂ T l m)
    {f : β → γ → StateM σ β} {g : β → δ → StateM τ β}
    (hf : ∀ b c d, T c d → Agree R (f b c) (g b d)) (b : β) :
    Agree R (l.foldlM f b) (m.foldlM g b) := by
  induction h generalizing b with
  | nil => exact .pure b
  | cons hcd _ ih =>
    rw [List.foldlM_cons, List.foldlM_cons]
    exact (hf b _ _ hcd).bind ih

/-- One list, in one order. -/
protected theorem foldlM_same {l : List γ} {f : β → γ → StateM σ β} {g : β → γ → StateM τ β}
    (hf : ∀ b, ∀ c ∈ l, Agree R (f b c) (g b c)) (b : β) : Agree R (l.foldlM f b) (l.foldlM g b) := by
  have hsame : List.Forall₂ (fun c d => c = d ∧ c ∈ l) l l := List.forall₂_same.mpr fun c hc => ⟨rfl, hc⟩
  refine Agree.foldlM hsame (fun b c d hcd => ?_) b
  obtain ⟨rfl, hc⟩ := hcd
  exact hf b c hc

section Resolve
variable {source : RoleSource (StateM σ)} {source' : RoleSource (StateM τ)}
  (h : ∀ principals seen, Agree R (source.query principals seen) (source'.query principals seen))
include h

private theorem expand (rounds : Nat) (s : RoleResolution) (fresh : List String) :
    Agree R (s.expand source rounds fresh) (s.expand source' rounds fresh) := by
  induction rounds generalizing s fresh with
  | zero => exact .pure s
  | succ rounds ih =>
    cases fresh with
    | nil => exact .pure s
    | cons role fresh => exact (h _ _).bind fun _ => ih _ _

/-- Sources that agree resolve to the same roles. -/
theorem resolve (hsize : source.size = source'.size) (principals : List String) :
    Agree R (source.resolve principals) (source'.resolve principals) := by
  refine Agree.bind ?_ fun _ => .pure _
  rw [RoleSource.gather, RoleSource.gather, hsize]
  exact (h _ _).bind fun _ => (expand h _ _ _).bind fun _ => (h _ _).bind fun _ => .pure _

end Resolve
end Agree

namespace Inquiry
variable {q : Inquiry} {w : Surroundings σ} {w' : Surroundings τ} {R : Session σ → Session τ → Prop}

theorem agree_matchedPolicies_of {principals : List String} {request : Option (String × String)}
    (h : ∀ service ∈ q.services, ∀ p ∈ candidates service principals request,
      Agree R (q.holds w service .policy service.policies p) (q.holds w' service .policy service.policies p)) :
    Agree R (q.matchedPolicies w principals request) (q.matchedPolicies w' principals request) :=
  Agree.foldlM_same (fun _ service hs => Agree.foldlM_same (fun _ p hp =>
    (h service hs p hp).bind fun _ => .pure _) _) _

theorem agree_roles_of (h : ∀ service ∈ q.services, ∀ principals seen,
      ∀ p ∈ q.roleCandidates service principals seen,
        Agree R (q.holds w service .rolePolicy service.rolePolicies p)
          (q.holds w' service .rolePolicy service.rolePolicies p))
    (hnote : ∀ s t d, R s t →
      R { s with rolePolicies := s.rolePolicies ++ [d] } { t with rolePolicies := t.rolePolicies ++ [d] }) :
    Agree R (q.roles w) (q.roles w') := by
  have hquery (principals : List String) (seen : NameSet) :
      Agree R ((q.roleSource w).query principals seen) ((q.roleSource w').query principals seen) := by
    refine Agree.foldlM_same (fun m service hs => Agree.foldlM_same (fun m p hp => ?_) m) _
    refine (h service hs principals seen p hp).bind fun held => ?_
    exact Agree.bind (fun s t hst => ⟨rfl, hnote s t _ hst⟩) fun _ => .pure _
  exact Agree.resolve hquery rfl q.principals

section Answers
variable (hroles : Agree R (q.roles w) (q.roles w'))
  (hpolicies : ∀ principals request,
    Agree R (q.matchedPolicies w principals request) (q.matchedPolicies w' principals request))
include hroles hpolicies

theorem agree_decide_of (hnoted : ∀ s t, R s t → s.rolePolicies = t.rolePolicies) (request : Request) :
    Agree R (q.decide w request) (q.decide w' request) := by
  rw [Inquiry.decide, Inquiry.decide]
  split
  · exact .pure _
  · refine hroles.bind fun roles => (hpolicies _ _).bind fun m => Agree.get fun s t hst => ?_
    rw [hnoted s t hst]
    exact .pure _

theorem agree_permissions_of : Agree R (q.permissions w) (q.permissions w') := by
  rw [permissions, permissions]
  split
  · exact .pure _
  · refine hroles.bind fun roles => (hpolicies _ _).bind fun m => ?_
    split
    · exact .pure _
    · exact .pure _

end Answers
end Inquiry

namespace RuleCache
variable [Rule α] [CoveringRule α] {c c' : RuleCache α} (h : c.Sound) (h' : c'.Sound)
  (hentries : c.entries = c'.entries)
include h h' hentries

/-- What is found depends on the entries only. -/
theorem related_congr (principals : List String) (resource : Option String) :
    c.related principals resource = c'.related principals resource := by
  apply Dict.ext_get?
  intro id
  apply Option.ext
  intro a
  rw [h.get?_related, h'.get?_related, hentries]

theorem isEmpty_congr : c.isEmpty = c'.isEmpty := by
  rw [Bool.eq_iff_iff, h.isEmpty_iff, h'.isEmpty_iff, hentries]

end RuleCache

/-- Two services of one content, which keep nothing that is outdated. -/
structure LoadedService.Twins (functions : FunctionTable) (s t : LoadedService) : Prop where
  left : s.Keeps functions s.live
  right : t.Keeps functions s.live

namespace LoadedService

theorem Keeps.live_eq {functions : FunctionTable} {s : LoadedService} {l : LiveService}
    (h : s.Keeps functions l) : s.live = l := by
  rw [live, h.policies.entries, h.rolePolicies.entries]

namespace Twins
variable {functions : FunctionTable} {s t : LoadedService} (h : s.Twins functions t)
include h

theorem live_eq : s.live = t.live := h.right.live_eq.symm

theorem candidates_eq (principals : List String) (request : Option (String × String)) :
    Inquiry.candidates s principals request = Inquiry.candidates t principals request := by
  rw [Inquiry.candidates, Inquiry.candidates, RuleCache.related_congr h.left.policies.sound
    h.right.policies.sound (congrArg LiveService.policies h.live_eq)]

theorem roleCandidates_eq (q : Inquiry) (services : List LoadedService) (principals : List String)
    (seen : NameSet) : q.roleCandidates s principals seen =
      { q with services }.roleCandidates t principals seen := by
  rw [Inquiry.roleCandidates, Inquiry.roleCandidates, RuleCache.related_congr h.left.rolePolicies.sound
    h.right.rolePolicies.sound (congrArg LiveService.rolePolicies h.live_eq)]

theorem get?_of_mem_candidates {p : Policy} {principals : List String}
    {request : Option (String × String)} (hp : p ∈ Inquiry.candidates t principals request) :
    s.live.policies.get? p.id = some p := by
  have hfound := h.right.policies.sound.get?_of_mem_related (List.mem_filter.mp hp).1
  rw [RuleCache.get?, h.right.policies.entries] at hfound
  exact hfound

theorem get?_of_mem_roleCandidates {q : Inquiry} {p : RolePolicy} {principals : List String}
    {seen : NameSet} (hp : p ∈ q.roleCandidates t principals seen) :
    s.live.rolePolicies.get? p.id = some p := by
  have hfound := h.right.rolePolicies.sound.get?_of_mem_related (List.mem_filter.mp hp).1
  rw [RuleCache.get?, h.right.rolePolicies.entries] at hfound
  exact hfound

end Twins
end LoadedService

/-- The answers of calls are settled in both sessions, and the same role policies were noted. -/
def Session.Alike (settled : σ × ResultCache → Prop) (s t : Session σ) : Prop :=
  settled s.calls ∧ settled t.calls ∧ s.rolePolicies = t.rolePolicies

namespace Inquiry
variable {w : Surroundings σ} {answers value : FunctionDefinition → List Json → Except Error Json}
  {used : FunctionDefinition → Prop} {times : Int → Prop} {q : Inquiry} {services : List LoadedService}
  (pure : w.resolve.IsPure answers) (alike : AnswerAlike answers used) (timely : times w.now)
  (defined : ∀ d, q.functions.Defines d → used d)
include pure alike timely defined

theorem agree_holds [Rule α] {cache cache' : RuleCache α} {rules : Dict α} {a : α}
    (h : cache.Keeps q.functions rules) (h' : cache'.Keeps q.functions rules)
    (ha : rules.get? (Rule.id a) = some a) (s t : LoadedService) (kind : RuleKind) :
    Agree (Session.Alike (Settled w.resolve used times value)) (q.holds w s kind cache a)
      ({ q with services }.holds w t kind cache' a) := by
  rintro x y ⟨hx, hy, hnoted⟩
  obtain ⟨x', hrun, hcalls, hkept⟩ := holds_spec (w := w) h ha s kind x
  obtain ⟨y', hrun', hcalls', hkept'⟩ :=
    holds_spec (w := w) (q := { q with services }) h' ha t kind y
  have hsteady : Steady (Settled w.resolve used times value) (Rule.holds w q.functions q.attributes a) :=
    Rule.steady_holds pure alike timely defined q.attributes a
  obtain ⟨b, hb⟩ := hsteady
  obtain ⟨hresult, hsettled⟩ := hb _ hx
  obtain ⟨hresult', hsettled'⟩ := hb _ hy
  rw [hrun, hrun']
  refine ⟨hresult.trans hresult'.symm, ?_, ?_, ?_⟩
  · rw [hcalls]
    exact hsettled
  · rw [hcalls']
    exact hsettled'
  · rw [hkept, hkept', hnoted]

variable (twins : List.Forall₂ (LoadedService.Twins q.functions) q.services services)
include twins

theorem agree_matchedPolicies (principals : List String) (request : Option (String × String)) :
    Agree (Session.Alike (Settled w.resolve used times value)) (q.matchedPolicies w principals request)
      ({ q with services }.matchedPolicies w principals request) := by
  refine Agree.foldlM twins (fun m s t h => ?_) _
  rw [h.candidates_eq]
  refine Agree.foldlM_same (fun m p hp => ?_) m
  have hfound := h.get?_of_mem_candidates hp
  exact (agree_holds pure alike timely defined h.left.policies h.right.policies hfound s t .policy).bind
    fun _ => .pure _

omit twins in
private theorem agree_addRolePolicy {s t : LoadedService} (h : s.Twins q.functions t) {p : RolePolicy}
    (hp : s.live.rolePolicies.get? p.id = some p) (m : MatchedRolePolicies) :
    Agree (Session.Alike (Settled w.resolve used times value)) (addRolePolicy w q s m p)
      (addRolePolicy w { q with services } t m p) := by
  refine (agree_holds pure alike timely defined h.left.rolePolicies h.right.rolePolicies hp s t
    .rolePolicy).bind fun held => ?_
  refine Agree.bind ?_ fun _ => .pure _
  rintro x y ⟨hx, hy, hnoted⟩
  exact ⟨rfl, hx, hy, congrArg (· ++ _) hnoted⟩

omit pure alike timely defined in
theorem map_live_eq : q.services.map LoadedService.live = services.map LoadedService.live := by
  generalize q.services = l at twins
  induction twins with
  | nil => rfl
  | cons h _ ih => rw [List.map_cons, List.map_cons, h.live_eq, ih]

theorem agree_roles : Agree (Session.Alike (Settled w.resolve used times value)) (q.roles w)
    ({ q with services }.roles w) := by
  refine Agree.resolve (fun principals seen => ?_) ?_ _
  · refine Agree.foldlM twins (fun m s t h => ?_) _
    rw [h.roleCandidates_eq q services]
    refine Agree.foldlM_same (fun m p hp => ?_) m
    exact agree_addRolePolicy pure alike timely defined h (h.get?_of_mem_roleCandidates hp) m
  · have hsize (l : List LoadedService) : l.foldl (fun n s => n + s.rolePolicies.size) 0 =
        (l.map LoadedService.live).foldl (fun n s => n + s.rolePolicies.size) 0 :=
      (List.foldl_map (f := LoadedService.live) (g := fun n (s : LiveService) => n + s.rolePolicies.size)).symm
    exact (hsize _).trans ((congrArg _ (map_live_eq twins)).trans (hsize _).symm)

omit pure alike timely defined in
theorem hasNoPolicies_eq : q.hasNoPolicies = { q with services }.hasNoPolicies := by
  rw [hasNoPolicies, hasNoPolicies]
  generalize q.services = l at twins
  induction twins with
  | nil => rfl
  | cons h _ ih =>
    rw [List.all_cons, List.all_cons, ih, RuleCache.isEmpty_congr h.left.policies.sound
      h.right.policies.sound (congrArg LiveService.policies h.live_eq)]

theorem agree_decide (request : Request) : Agree (Session.Alike (Settled w.resolve used times value))
    (q.decide w request) ({ q with services }.decide w request) := by
  rw [Inquiry.decide, Inquiry.decide, ← hasNoPolicies_eq twins]
  split
  · exact .pure _
  · refine (agree_roles pure alike timely defined twins).bind fun roles => ?_
    refine (agree_matchedPolicies pure alike timely defined twins _ _).bind fun m => ?_
    refine Agree.get fun x y h => ?_
    rw [h.2.2]
    exact .pure _

theorem agree_permissions : Agree (Session.Alike (Settled w.resolve used times value))
    (q.permissions w) ({ q with services }.permissions w) := by
  rw [permissions, permissions, ← hasNoPolicies_eq twins]
  split
  · exact .pure _
  · refine (agree_roles pure alike timely defined twins).bind fun roles => ?_
    refine (agree_matchedPolicies pure alike timely defined twins _ _).bind fun m => ?_
    split
    · exact .pure _
    · exact .pure _

end Inquiry
end Turnstile

import Turnstile.Proofs.Evaluation.Permissions
import Turnstile.Proofs.Evaluation.Roles

/-! Role policies of the global service under other identifiers. A service and the global one are asked together,
and what has been seen is told by identifiers alone: of two role policies with one identifier, one is passed over.
Where no two of those that concern a resource share an identifier, the answers do not depend on identifiers. -/
namespace Turnstile
variable {σ : Type}

namespace RuleCache

/-- All role policies are on the other side, too, up to their identifiers; so are the conditions kept for them. -/
def Renamed (c c' : RuleCache RolePolicy) : Prop :=
  ∀ p, c.get? p.id = some p → ∃ id, c'.get? id = some { p with id } ∧ c'.condition? id = c.condition? p.id

/-- Role policies under new identifiers, each with the condition that was kept for it. -/
def renameAll (f : String → String) (kept : String → Option CompiledCondition) (l : List RolePolicy) :
    RuleCache RolePolicy :=
  l.foldl (fun renamed p => renamed.add { p with id := f p.id } (kept p.id)) .empty

def rename (f : String → String) (c : RuleCache RolePolicy) : RuleCache RolePolicy :=
  renameAll f c.condition? c.entries.values

section Rename
variable {f : String → String} {c : RuleCache RolePolicy}

private theorem renameAll_spec (kept : String → Option CompiledCondition) (l : List RolePolicy)
    (distinct : (l.map fun p => f p.id).Nodup) : (renameAll f kept l).Orderly ∧
      (∀ p ∈ l, (renameAll f kept l).get? (f p.id) = some { p with id := f p.id } ∧
        (renameAll f kept l).condition? (f p.id) = kept p.id) ∧
      ∀ i p', (renameAll f kept l).get? i = some p' → ∃ p ∈ l, f p.id = i ∧ p' = { p with id := f p.id } := by
  induction l using List.reverseRecOn with
  | nil => exact ⟨orderly_empty, fun _ hp => (nomatch hp), fun _ _ hp => nomatch hp⟩
  | append_singleton l a ih =>
    rw [List.map_append, List.nodup_append] at distinct
    obtain ⟨hl, -, hnew⟩ := distinct
    obtain ⟨horderly, hlisted, hfound⟩ := ih hl
    have hconcat : renameAll f kept (l ++ [a]) =
        (renameAll f kept l).add { a with id := f a.id } (kept a.id) := List.foldl_append
    have hentry (i : String) : (renameAll f kept (l ++ [a])).get? i =
        if i = f a.id then some { a with id := f a.id } else (renameAll f kept l).get? i := by
      rw [hconcat]
      exact get?_entries_add ..
    have hcondition (i : String) : (renameAll f kept (l ++ [a])).condition? i =
        if i = f a.id then kept a.id else (renameAll f kept l).condition? i := by
      rw [hconcat]
      exact horderly.owned.get?_conditions_add ..
    refine ⟨hconcat ▸ horderly.add _ _, fun p hp => ?_, fun i p' hp' => ?_⟩
    · rw [hentry, hcondition]
      rcases List.mem_append.mp hp with hp | hp
      · have hne : f p.id ≠ f a.id := hnew _ (List.mem_map_of_mem hp) _ List.mem_cons_self
        rw [if_neg hne, if_neg hne]
        exact hlisted p hp
      · obtain rfl := List.mem_singleton.mp hp
        exact ⟨if_pos rfl, if_pos rfl⟩
    · rw [hentry] at hp'
      by_cases hi : i = f a.id
      · rw [if_pos hi] at hp'
        exact ⟨a, List.mem_append_right _ List.mem_cons_self, hi.symm, (Option.some.inj hp').symm⟩
      · rw [if_neg hi] at hp'
        obtain ⟨p, hp, hrest⟩ := hfound i p' hp'
        exact ⟨p, List.mem_append_left _ hp, hrest⟩

variable (h : c.Orderly) (distinct : (c.ids.map f).Nodup)
include h distinct

private theorem renamed_values : (c.entries.values.map fun p => f p.id).Nodup := by
  have hids : (c.entries.values.map fun p => f p.id) = c.ids.map f := by
    rw [← h.sound.map_id_values, List.map_map]
    rfl
  rw [hids]
  exact distinct

theorem orderly_rename : (c.rename f).Orderly := (renameAll_spec c.condition? _ (renamed_values h distinct)).1

theorem renamed_rename : c.Renamed (c.rename f) := by
  intro p hp
  exact ⟨f p.id, (renameAll_spec c.condition? _ (renamed_values h distinct)).2.1 p (Dict.mem_values.mpr ⟨_, hp⟩)⟩

theorem rename_renamed : (c.rename f).Renamed c := by
  obtain ⟨-, hlisted, hfound⟩ := renameAll_spec c.condition? _ (renamed_values h distinct)
  intro p' hp'
  obtain ⟨p, hp, hid, rfl⟩ := hfound p'.id p' hp'
  obtain ⟨i, hi⟩ := Dict.mem_values.mp hp
  obtain rfl : p.id = i := h.sound.ids i p hi
  exact ⟨p.id, hi, (hlisted p hp).2.symm⟩

end Rename

/-- Conditions that are kept come along, and no others. -/
theorem Renamed.uses {c c' : RuleCache RolePolicy} (h : c'.Renamed c) {d : FunctionDefinition} (hd : c'.Uses d) :
    c.Uses d := by
  obtain ⟨p, expression, k, hp, he, hk, hd⟩ := hd
  obtain ⟨id, hid, hkept⟩ := h p hp
  exact ⟨{ p with id }, expression, k, hid, he, hkept.trans hk, hd⟩

end RuleCache

private theorem exists_right_of_forall₂ {α β : Type} {R : α → β → Prop} {l : List α} {m : List β}
    (h : List.Forall₂ R l m) {a : α} (ha : a ∈ l) : ∃ b ∈ m, R a b := by
  induction h with
  | nil => cases ha
  | cons hab _ ih =>
    rcases List.mem_cons.mp ha with rfl | ha
    · exact ⟨_, List.mem_cons_self, hab⟩
    · obtain ⟨b, hb, hrel⟩ := ih ha
      exact ⟨b, List.mem_cons_of_mem _ hb, hrel⟩

/-- The same policies, and the same role policies up to identifiers. -/
structure LoadedService.Renamed (s s' : LoadedService) : Prop where
  policies : s.policies = s'.policies
  left : s.rolePolicies.Renamed s'.rolePolicies
  right : s'.rolePolicies.Renamed s.rolePolicies

namespace Inquiry
variable {w : Surroundings σ} {q : Inquiry} {services : List LoadedService}

section Answers
variable (renamed : List.Forall₂ LoadedService.Renamed q.services services)
include renamed

/-- Role policies that hold go on holding. -/
private theorem rolePolicies_renamed {q' : Inquiry} (hq : q' = { q with services })
    (orderly : ∀ service ∈ q.services, service.Orderly) (orderly' : ∀ service ∈ q'.services, service.Orderly)
    (s : Session σ) {p : RolePolicy} (hp : p ∈ q.rolePolicies fun service p =>
      (q.holds w service .rolePolicy service.rolePolicies p s).1) :
    ∃ p' ∈ q'.rolePolicies fun service p => (q'.holds w service .rolePolicy service.rolePolicies p s).1,
      p.Means p' := by
  subst hq
  obtain ⟨service, hs, ⟨hp, hconcerns⟩, htrue⟩ := (mem_rolePolicies_iff orderly).mp hp
  obtain ⟨service', hs', hrenamed⟩ := exists_right_of_forall₂ renamed hs
  obtain ⟨id, hid, hkept⟩ := hrenamed.left p hp
  refine ⟨{ p with id }, (mem_rolePolicies_iff orderly').mpr ⟨service', hs', ⟨hid, hconcerns⟩, ?_⟩,
    rfl, fun _ => Iff.rfl, fun _ => Iff.rfl⟩
  have hcondition : Rule.condition? p = Rule.condition? { p with id } := rfl
  rw [← htrue]
  exact (holds_congr hcondition hkept.symm ..).symm

theorem sameRules_renamed (orderly : ∀ service ∈ q.services, service.Orderly)
    (orderly' : ∀ service ∈ services, service.Orderly) (presented : List String) (s : Session σ) :
    let q' := { q with services }
    SameRules (q.rolePolicies fun service p => (q.holds w service .rolePolicy service.rolePolicies p s).1) presented
      (q'.rolePolicies fun service p => (q'.holds w service .rolePolicy service.rolePolicies p s).1) presented := by
  intro q'
  have back : List.Forall₂ LoadedService.Renamed q'.services q.services :=
    (renamed.imp fun _ _ h => ⟨h.policies.symm, h.right, h.left⟩).flip
  exact ⟨fun _ => Iff.rfl, fun p hp => rolePolicies_renamed renamed rfl orderly orderly' s hp,
    fun p hp => rolePolicies_renamed (q := q') back rfl orderly' orderly s hp⟩

theorem found_renamed (presented : List String) (request : Option (String × String)) (s : Session σ) :
    let q' := { q with services }
    q'.found (fun service p => (q'.holds w service .policy service.policies p s).1) presented request =
      q.found (fun service p => (q.holds w service .policy service.policies p s).1) presented request := by
  intro q'
  have key (l m : List LoadedService) (h : List.Forall₂ LoadedService.Renamed l m) :
      (m.flatMap fun service => (candidates service presented request).filter fun p =>
        (q'.holds w service .policy service.policies p s).1) =
      l.flatMap fun service => (candidates service presented request).filter fun p =>
        (q.holds w service .policy service.policies p s).1 := by
    induction h with
    | nil => rfl
    | cons hab _ ih =>
      rw [List.flatMap_cons, List.flatMap_cons, ih, candidates, candidates, hab.policies]
      refine congrArg (· ++ _) (List.filter_congr fun p _ => ?_)
      exact (holds_congr rfl rfl ..).symm
  exact key _ _ renamed

end Answers
end Inquiry

/-- The role policies of the global service get new identifiers. -/
def Registry.renameGlobal (f : String → String) (r : Registry) : Registry :=
  { r with services := r.services.modify Service.globalName fun s =>
      { s with rolePolicies := s.rolePolicies.rename f } }

namespace Registry
variable {r : Registry} {f : String → String}

/-- No two role policies of the global service get one identifier. -/
def RenamesGlobal (f : String → String) (r : Registry) : Prop :=
  ∀ s, r.global? = some s → (s.rolePolicies.ids.map f).Nodup

/-- Role policies of the target service and of the global one, both of which concern the resource, share an
identifier. -/
def Collides (r : Registry) (request : Request) : Prop :=
  request.service ≠ Service.globalName ∧ ∃ target global p p', r.service? request.service = some target ∧
    r.global? = some global ∧ target.rolePolicies.get? p.id = some p ∧ global.rolePolicies.get? p'.id = some p' ∧
    p.Concerns request.resource ∧ p'.Concerns request.resource ∧ p.id = p'.id

theorem not_collides_of_ids {request : Request} {ids ids' : List String}
    (htarget : (r.service? request.service).map (·.rolePolicies.ids) = some ids)
    (hglobal : r.global?.map (·.rolePolicies.ids) = some ids') (h : ∀ id ∈ ids, id ∉ ids') :
    ¬ r.Collides request := by
  rintro ⟨-, target, global, p, p', hservice, hservice', hp, hp', -, -, hid⟩
  rw [hservice] at htarget
  rw [hservice'] at hglobal
  obtain rfl := Option.some.inj htarget
  obtain rfl := Option.some.inj hglobal
  exact h _ (Dict.mem_keys.mpr (Dict.mem_of_get? hp)) (hid ▸ Dict.mem_keys.mpr (Dict.mem_of_get? hp'))

theorem renamesGlobal_of_ids {ids : List String} (hglobal : r.global?.map (·.rolePolicies.ids) = some ids)
    (h : (ids.map f).Nodup) : r.RenamesGlobal f := by
  intro s hs
  rw [hs] at hglobal
  obtain rfl := Option.some.inj hglobal
  exact h

theorem apart_of_not_collides {asserter : Option TokenAsserter} {now : ClockTime} {request : Request} {q : Inquiry}
    (hq : r.inquire asserter now request = .ok q) (h : ¬ r.Collides request) : q.Apart := by
  obtain ⟨target, subject, htarget, -, rfl⟩ := of_inquire hq
  refine List.pairwise_cons.mpr ⟨fun global hglobal p p' hp hp' hc hc' hid => ?_, ?_⟩
  · rw [Option.mem_toList] at hglobal
    split at hglobal
    · cases hglobal
    · next hother => exact h ⟨hother, target, global, p, p', htarget, hglobal, hp, hp', hc, hc', hid⟩
  · cases (if request.service = Service.globalName then none else r.global?) with
    | none => exact .nil
    | some _ => exact List.pairwise_singleton ..

theorem service?_renameGlobal (f : String → String) (r : Registry) (name : String) :
    (r.renameGlobal f).service? name = if name = Service.globalName then
      (r.service? name).map fun s => { s with rolePolicies := s.rolePolicies.rename f }
    else r.service? name := Dict.get?_modify ..

variable (orderly : r.Orderly) (distinct : r.RenamesGlobal f)
include orderly distinct

theorem orderly_renameGlobal : (r.renameGlobal f).Orderly := by
  intro name s hs
  have hs : (r.renameGlobal f).service? name = some s := hs
  rw [service?_renameGlobal] at hs
  split at hs
  · next hname =>
    obtain ⟨t, ht, rfl⟩ := Option.map_eq_some_iff.mp hs
    obtain ⟨hn, horderly⟩ := orderly name t ht
    subst hname
    exact ⟨hn, horderly.policies, RuleCache.orderly_rename horderly.rolePolicies (distinct t ht)⟩
  · exact orderly name s hs

theorem rel_renameGlobal (name : String) :
    Option.Rel LoadedService.Renamed (r.service? name) ((r.renameGlobal f).service? name) := by
  rw [service?_renameGlobal]
  cases hs : r.service? name with
  | none =>
    split
    · exact .none
    · exact .none
  | some s =>
    have horderly := (orderly name s hs).2.rolePolicies
    split
    · next hname =>
      subst hname
      have hids := distinct s hs
      exact .some ⟨rfl, RuleCache.renamed_rename horderly hids, RuleCache.rename_renamed horderly hids⟩
    · exact .some ⟨rfl, fun p hp => ⟨p.id, hp, rfl⟩, fun p hp => ⟨p.id, hp, rfl⟩⟩

theorem uses_of_renameGlobal {d : FunctionDefinition} (hd : (r.renameGlobal f).Uses d) : r.Uses d := by
  rcases hd with hd | ⟨name, s, hs, hd⟩
  · exact .inl hd
  · rw [service?_renameGlobal] at hs
    split at hs
    · next hname =>
      obtain ⟨t, ht, rfl⟩ := Option.map_eq_some_iff.mp hs
      refine .inr ⟨name, t, ht, hd.imp_right fun hd => ?_⟩
      have horderly := (orderly name t ht).2.rolePolicies
      subst hname
      exact (RuleCache.rename_renamed horderly (distinct t ht)).uses hd
    · exact .inr ⟨name, s, hs, hd⟩

end Registry

namespace Evaluator
variable {answers : FunctionDefinition → List Json → Except Error Json}

/-- The role policies that hold when a request is answered. -/
def rolePoliciesHolding (e : Evaluator σ) (now : ClockTime) (resolver : σ) (r : Registry) (q : Inquiry) :
    List RolePolicy :=
  q.rolePolicies fun service p => (q.holds ⟨e.resolve, now.seconds⟩ service .rolePolicy service.rolePolicies p
    { resolver, results := r.results }).1

/-- Where no role policies of the target service and of the global one collide, neither before nor after the role
policies of the global service are renamed, they all take part in the resolution of roles, and what they are called
does not show in roles and decisions. -/
theorem answers_renameGlobal (e : Evaluator σ) (pure : e.resolve.IsPure answers) (earlier : σ)
    (actions : List Action) (results : ResultCache) (updates : Option (List ConditionUpdate)) (resolver : σ)
    (now : ClockTime) (request : Request) (f : String → String) :
    let r := { e.after earlier actions with results, updates }
    let r' := r.renameGlobal f
    AnswerAlike answers r.Uses → r.RenamesGlobal f → ¬ r.Collides request → ¬ r'.Collides request →
      (∀ q, r.inquire e.asserter now request = .ok q → (e.grantedRoles now request (resolver, r)).1 =
        .ok ((RoleSource.ofList (e.rolePoliciesHolding now resolver r q)).resolve q.principals ()).1.toList) ∧
      (e.grantedRoles now request (resolver, r')).1 = (e.grantedRoles now request (resolver, r)).1 ∧
      (e.isAllowed now request (resolver, r')).1 = (e.isAllowed now request (resolver, r)).1 := by
  intro r r' alike distinct hcollides hcollides'
  have orderly : r.Orderly := e.orderly_after earlier actions
  have orderly' : r'.Orderly := Registry.orderly_renameGlobal orderly distinct
  have hfunctions : r.functions = r'.functions := rfl
  rcases Registry.inquire_related hfunctions (Registry.rel_renameGlobal orderly distinct) e.asserter now request with
    ⟨err, herr, herr'⟩ | ⟨q, services, hq, hq', -, hrenamed⟩
  · have hanswer {α : Type} (ask : Surroundings σ → Inquiry → Evaluation σ α) :
        (e.answer now request ask (resolver, r')).1 = (e.answer now request ask (resolver, r)).1 := by
      rw [answer, answer, herr, herr']
    refine ⟨fun q hq => ?_, hanswer _, ?_⟩
    · rw [herr] at hq
      cases hq
    · exact congrArg (Except.map fun d : Diagnosis => (⟨d.allowed, d.reason⟩ : Decision))
        (hanswer fun w q => q.decide w request)
  · let w : Surroundings σ := ⟨e.resolve, now.seconds⟩
    let q' : Inquiry := { q with services }
    let start : Session σ := { resolver, results }
    let value (d : FunctionDefinition) (args : List Json) : Except Error Json :=
      (d.call e.resolve now.seconds args (resolver, results)).1
    let times (t : Int) : Prop := t = now.seconds
    have timely : times w.now := rfl
    have hstart : Settled e.resolve r.Uses times value start.calls := by
      rintro d - t rfl args
      rfl
    have hservices (service : LoadedService) (hs : service ∈ q.services) : service.Orderly :=
      ((orderly.reads hq).services service hs).2
    have hservices' (service : LoadedService) (hs : service ∈ q'.services) : service.Orderly :=
      ((orderly'.reads hq').services service hs).2
    have huses (d : FunctionDefinition) (hd : q.Uses d) : r.Uses d := (orderly.reads hq).uses hd
    have huses' (d : FunctionDefinition) (hd : q'.Uses d) : r.Uses d :=
      Registry.uses_of_renameGlobal orderly distinct ((orderly'.reads hq').uses hd)
    have hpresents : q.principals ≠ [] := by
      obtain ⟨_, _, -, -, rfl⟩ := Registry.of_inquire hq
      exact List.cons_ne_nil _ _
    have hroles := q.roles_eq_resolve (w := w) pure alike timely hservices huses hpresents
      (Registry.apart_of_not_collides hq hcollides) hstart
    have hroles' := q'.roles_eq_resolve (w := w) pure alike timely hservices' huses' hpresents
      (Registry.apart_of_not_collides hq' hcollides') hstart
    have hsame := q.sameRules_renamed (w := w) hrenamed hservices hservices' q.principals start
    have hlists : (q'.roles w start).1 = (q.roles w start).1 := by
      rw [hroles, hroles']
      refine (RoleResolution.resolve_congr hsame ?_ ((RoleSource.ofList_serves _).servesFrom _) ?_
        ((RoleSource.ofList_serves _).servesFrom _) () ()).symm
      · exact Inquiry.nodup_rolePolicies hservices (Registry.apart_of_not_collides hq hcollides)
      · exact Inquiry.nodup_rolePolicies hservices' (Registry.apart_of_not_collides hq' hcollides')
    have hcertain := q.certain (w := w) pure alike timely hservices huses hstart
    have hcertain' := q'.certain (w := w) pure alike timely hservices' huses' hstart
    refine ⟨fun x hx => ?_, ?_, ?_⟩
    · obtain rfl := Except.ok.inj (hq.symm.trans hx)
      rw [grantedRoles_of_inquire hq]
      exact congrArg (fun roles => Except.ok roles.toList) hroles
    · rw [grantedRoles_of_inquire hq, grantedRoles_of_inquire hq']
      exact congrArg (fun roles => Except.ok roles.toList) hlists
    · refine (isAllowed_of_certain hq' hcertain' hstart).trans
        (Eq.trans ?_ (isAllowed_of_certain hq hcertain hstart).symm)
      rw [hlists, Inquiry.found_renamed hrenamed]
      rfl

end Evaluator

/-- Ann may read as a lender, which the global service makes her. The library makes her a reader. -/
def branches : List Action :=
  [.change (.addService {
      name := "library"
      policies := [{ id := "1", effect := .grant, principals := [["role:lender"]] }]
      rolePolicies := [{ id := "1", effect := .grant, roles := ["reader"], principals := ["user:ann"] }] }),
    .change (.addService {
      name := Service.globalName
      rolePolicies := [{ id := "2", effect := .grant, roles := ["lender"], principals := ["user:ann"] }] })]

/-- She is both, whatever the role policy of the global service is called, as long as it is not called like the
library's. -/
theorem answers_renameGlobal_branches :
    let r := { unreachable.after () branches with results := {}, updates := none }
    let r' := r.renameGlobal fun id => "0" ++ id
    (unreachable.grantedRoles ⟨0, 0⟩ reading ((), r)).1 = .ok ["lender", "reader"] ∧
      (unreachable.grantedRoles ⟨0, 0⟩ reading ((), r')).1 = .ok ["lender", "reader"] ∧
      (unreachable.isAllowed ⟨0, 0⟩ reading ((), r')).1 = .ok (.allow .grantPolicyFound) := by
  intro r r'
  have alike : AnswerAlike (fun d _ => .error (.customFunction d.name)) r.Uses := fun _ _ _ _ hname _ =>
    congrArg (fun name => Except.error (Error.customFunction name)) hname
  have hlibrary : (r.service? reading.service).map (·.rolePolicies.ids) = some ["1"] := by decide +kernel
  have hlibrary' : (r'.service? reading.service).map (·.rolePolicies.ids) = some ["1"] := by decide +kernel
  have hglobal : r.global?.map (·.rolePolicies.ids) = some ["2"] := by decide +kernel
  have hglobal' : r'.global?.map (·.rolePolicies.ids) = some ["02"] := by decide +kernel
  have hroles : (unreachable.grantedRoles ⟨0, 0⟩ reading ((), r)).1 = .ok ["lender", "reader"] := by decide +kernel
  have hallowed : (unreachable.isAllowed ⟨0, 0⟩ reading ((), r)).1 = .ok (.allow .grantPolicyFound) := by
    decide +kernel
  obtain ⟨-, hroles', hallowed'⟩ := unreachable.answers_renameGlobal unreachable_isPure () branches {} none () ⟨0, 0⟩
    reading (fun id => "0" ++ id) alike (Registry.renamesGlobal_of_ids hglobal (by decide))
    (Registry.not_collides_of_ids hlibrary hglobal (by decide))
    (Registry.not_collides_of_ids hlibrary' hglobal' (by decide))
  exact ⟨hroles, hroles'.trans hroles, hallowed'.trans hallowed⟩

/-- When the global service calls its role policy as the library does, Ann is no lender any more. -/
theorem not_answers_renameGlobal_branches :
    let r := unreachable.after () branches
    let r' := r.renameGlobal (Equiv.swap "1" "2")
    reading.service ≠ Service.globalName ∧ r.RenamesGlobal (Equiv.swap "1" "2") ∧
      (unreachable.grantedRoles ⟨0, 0⟩ reading ((), r)).1 = .ok ["lender", "reader"] ∧
      (unreachable.grantedRoles ⟨0, 0⟩ reading ((), r')).1 = .ok ["reader"] ∧
      (unreachable.isAllowed ⟨0, 0⟩ reading ((), r)).1 = .ok (.allow .grantPolicyFound) ∧
      (unreachable.isAllowed ⟨0, 0⟩ reading ((), r')).1 = .ok (.deny .noApplicablePolicies) := by
  intro r r'
  have hglobal : r.global?.map (·.rolePolicies.ids) = some ["2"] := by decide +kernel
  exact ⟨by decide, Registry.renamesGlobal_of_ids hglobal (by decide), by decide +kernel, by decide +kernel,
    by decide +kernel, by decide +kernel⟩

end Turnstile

import Turnstile.Proofs.Evaluation.Agreement
import Turnstile.Proofs.Role.Meaning

/-! The roles of an inquiry, while the answers of calls are settled. Where identifiers tell the role policies of all
its services apart, the roles are those that a list of the role policies which hold leads to. -/
namespace Turnstile
variable {σ τ : Type}

/-- A role policy concerns a resource when the index finds it for the resource, and its resources cover that. -/
def RolePolicy.Concerns (resource : String) (p : RolePolicy) : Prop :=
  p.Covers resource ∧ coversResource p.resources p.expressions resource = true

instance (resource : String) (p : RolePolicy) : Decidable (p.Covers resource) :=
  inferInstanceAs (Decidable (_ ∨ _))

instance (resource : String) (p : RolePolicy) : Decidable (p.Concerns resource) :=
  inferInstanceAs (Decidable (_ ∧ _))

namespace MatchedRolePolicies

/-- Role policies that hold are kept by effect. -/
def put (m : MatchedRolePolicies) (p : RolePolicy) : MatchedRolePolicies :=
  match p.effect with
  | .grant => { m with granted := m.granted ++ [p] }
  | .deny => { m with denied := m.denied ++ [p] }

theorem foldl_put (l : List RolePolicy) (m : MatchedRolePolicies) : l.foldl put m =
    ⟨m.granted ++ l.filter (·.effect = .grant), m.denied ++ l.filter (·.effect = .deny)⟩ := by
  induction l generalizing m with
  | nil => simp
  | cons p l ih =>
    rw [List.foldl_cons, ih, put]
    cases he : p.effect with
    | grant => simp [he]
    | deny => simp [he]

end MatchedRolePolicies

/-- The values of a cache have its identifiers. -/
theorem RuleCache.Sound.map_id_values {α : Type} [Rule α] {c : RuleCache α} (h : c.Sound) :
    c.entries.values.map Rule.id = c.ids := by
  rw [Dict.values, List.map_map, RuleCache.ids, Dict.keys]
  refine List.map_congr_left fun e he => ?_
  exact h.ids e.1 e.2 ((Dict.mem_entries_iff ..).mp he)

namespace Inquiry
variable {w : Surroundings σ} {q : Inquiry} {truth : LoadedService → RolePolicy → Bool} {p : RolePolicy}
  {service : LoadedService} {principals : List String} {seen : NameSet}

theorem mem_roleCandidates_iff (h : service.rolePolicies.Sound) :
    p ∈ q.roleCandidates service principals seen ↔ principals ≠ [] ∧
      (service.rolePolicies.get? p.id = some p ∧ p.Concerns q.resource) ∧ p.id ∉ seen ∧ p.IsDirect principals := by
  rw [roleCandidates, List.mem_filter, h.mem_values_related, RuleCache.reaches_rolePolicy_iff, Bool.and_eq_true,
    Bool.and_eq_true, Bool.not_eq_true', Dict.contains_eq_false_iff, matchesAnyPrincipal, Bool.and_eq_true,
    Bool.not_eq_true', List.isEmpty_eq_false_iff, Bool.or_eq_true, List.isEmpty_iff, List.any_eq_true,
    RolePolicy.Concerns, RolePolicy.IsDirect]
  simp only [Option.mem_some_iff, forall_eq', RuleCache.covers_rolePolicy_iff, List.contains_iff_mem]
  have hid : Rule.id p = p.id := rfl
  rw [hid]
  constructor
  · rintro ⟨⟨hp, -, hcovers⟩, ⟨hnew, hsome, hdirect⟩, hcovers'⟩
    exact ⟨hsome, ⟨hp, hcovers, hcovers'⟩, hnew, hdirect⟩
  · rintro ⟨hsome, ⟨hp, hcovers, hcovers'⟩, hnew, hdirect⟩
    exact ⟨⟨hp, hdirect.imp_right (Exists.imp fun _ => And.symm), hcovers⟩, ⟨hnew, hsome, hdirect⟩, hcovers'⟩

/-- The role policies that concern the resource and hold. -/
def rolePolicies (q : Inquiry) (truth : LoadedService → RolePolicy → Bool) : List RolePolicy :=
  q.services.flatMap fun service =>
    service.rolePolicies.entries.values.filter fun p => p.Concerns q.resource ∧ truth service p

/-- The candidates among them. -/
def foundRolePolicies (q : Inquiry) (truth : LoadedService → RolePolicy → Bool) (principals : List String)
    (seen : NameSet) : List RolePolicy :=
  q.services.flatMap fun service => (q.roleCandidates service principals seen).filter (truth service)

/-- The source of the role policies, as if conditions needed no evaluation. -/
def settledSource (q : Inquiry) (truth : LoadedService → RolePolicy → Bool) : RoleSource (StateM Unit) where
  size := q.services.foldl (fun n s => n + s.rolePolicies.size) 0
  query principals seen := pure ((q.foundRolePolicies truth principals seen).foldl MatchedRolePolicies.put {})

theorem length_rolePolicies_le : (q.rolePolicies truth).length ≤ (q.settledSource truth).size := by
  have key (services : List LoadedService) (n : Nat) : n + (services.flatMap fun service =>
      service.rolePolicies.entries.values.filter fun p => p.Concerns q.resource ∧ truth service p).length ≤
        services.foldl (fun n s => n + s.rolePolicies.size) n := by
    induction services generalizing n with
    | nil => exact Nat.le_refl n
    | cons service services ih =>
      rw [List.foldl_cons, List.flatMap_cons, List.length_append, ← Nat.add_assoc]
      refine (Nat.add_le_add_right (Nat.add_le_add_left (List.length_filter_le ..) n) _).trans ?_
      rw [Dict.values, List.length_map]
      exact ih _
  have hlength := key q.services 0
  rw [Nat.zero_add] at hlength
  exact hlength

section Serves
variable (orderly : ∀ service ∈ q.services, service.Orderly)
include orderly

theorem mem_rolePolicies_iff : p ∈ q.rolePolicies truth ↔ ∃ service ∈ q.services,
    (service.rolePolicies.get? p.id = some p ∧ p.Concerns q.resource) ∧ truth service p = true := by
  simp only [rolePolicies, List.mem_flatMap, List.mem_filter, decide_eq_true_eq]
  refine exists_congr fun service => and_congr_right fun hs => ?_
  have hvalue : p ∈ service.rolePolicies.entries.values ↔ service.rolePolicies.get? p.id = some p := by
    constructor
    · intro hp
      obtain ⟨id, hid⟩ := Dict.mem_values.mp hp
      obtain rfl : p.id = id := (orderly service hs).rolePolicies.sound.ids id p hid
      exact hid
    · exact fun hp => Dict.mem_values.mpr ⟨p.id, hp⟩
  rw [hvalue, and_assoc]

theorem mem_foundRolePolicies_iff : p ∈ q.foundRolePolicies truth principals seen ↔ principals ≠ [] ∧
    p ∈ q.rolePolicies truth ∧ p.id ∉ seen ∧ p.IsDirect principals := by
  simp only [mem_rolePolicies_iff orderly, foundRolePolicies, List.mem_flatMap, List.mem_filter]
  constructor
  · rintro ⟨service, hs, hp, htrue⟩
    obtain ⟨hsome, hp, hrest⟩ := (mem_roleCandidates_iff (orderly service hs).rolePolicies.sound).mp hp
    exact ⟨hsome, ⟨service, hs, hp, htrue⟩, hrest⟩
  · rintro ⟨hsome, ⟨service, hs, hp, htrue⟩, hrest⟩
    exact ⟨service, hs, (mem_roleCandidates_iff (orderly service hs).rolePolicies.sound).mpr ⟨hsome, hp, hrest⟩,
      htrue⟩

/-- The source serves whoever presents something. -/
theorem servesFrom_settledSource (presents : q.principals ≠ []) :
    (q.settledSource truth).ServesFrom (q.rolePolicies truth) q.principals := by
  have hquery (principals : List String) (seen : NameSet) (t : Unit) :
      ((q.settledSource truth).query principals seen t).1 =
        ⟨(q.foundRolePolicies truth principals seen).filter (·.effect = .grant),
          (q.foundRolePolicies truth principals seen).filter (·.effect = .deny)⟩ :=
    MatchedRolePolicies.foldl_put ..
  have hasked {principals : List String} (h : principals = q.principals ∨ principals ≠ []) : principals ≠ [] :=
    h.elim (fun h => h ▸ presents) id
  refine ⟨length_rolePolicies_le, fun principals h seen t p => ?_, fun principals h seen t p => ?_,
    fun seen t p hp => ?_⟩
  · rw [hquery, List.mem_filter, mem_foundRolePolicies_iff orderly, decide_eq_true_eq, and_iff_right (hasked h)]
    tauto
  · rw [hquery, List.mem_filter, mem_foundRolePolicies_iff orderly, decide_eq_true_eq, and_iff_right (hasked h)]
    tauto
  · rw [hquery, List.mem_filter, mem_foundRolePolicies_iff orderly] at hp
    exact absurd rfl hp.1.1

/-- Role policies of different services that concern the resource have identifiers of their own. -/
def Apart (q : Inquiry) : Prop :=
  q.services.Pairwise fun s t => ∀ p p', s.rolePolicies.get? p.id = some p → t.rolePolicies.get? p'.id = some p' →
    p.Concerns q.resource → p'.Concerns q.resource → p.id ≠ p'.id

theorem nodup_rolePolicies (apart : q.Apart) : ((q.rolePolicies truth).map (·.id)).Nodup := by
  have hvalue {service : LoadedService} {p : RolePolicy} (hs : service ∈ q.services)
      (hp : p ∈ service.rolePolicies.entries.values.filter fun p => p.Concerns q.resource ∧ truth service p) :
      service.rolePolicies.get? p.id = some p ∧ p.Concerns q.resource := by
    obtain ⟨hp, hholds⟩ := List.mem_filter.mp hp
    obtain ⟨id, hid⟩ := Dict.mem_values.mp hp
    obtain rfl : p.id = id := (orderly service hs).rolePolicies.sound.ids id p hid
    exact ⟨hid, (of_decide_eq_true hholds).1⟩
  rw [List.nodup_iff_pairwise_ne, List.pairwise_map, rolePolicies, List.pairwise_flatMap]
  constructor
  · intro service hs
    have hids := Dict.nodup_keys service.rolePolicies.entries
    rw [← RuleCache.ids, ← (orderly service hs).rolePolicies.sound.map_id_values, List.nodup_iff_pairwise_ne,
      List.pairwise_map] at hids
    exact hids.filter _
  · refine apart.imp_of_mem fun hs ht hdistinct p hp p' hp' => ?_
    obtain ⟨hp, hconcerns⟩ := hvalue hs hp
    obtain ⟨hp', hconcerns'⟩ := hvalue ht hp'
    exact hdistinct p p' hp hp' hconcerns hconcerns'

end Serves

/-- What holds can be looked up beforehand. -/
theorem agree_settledSource {R : Session σ → Unit → Prop}
    (hholds : ∀ service ∈ q.services, ∀ p, service.rolePolicies.get? p.id = some p →
      Agree R (q.holds w service .rolePolicy service.rolePolicies p) (pure (truth service p)))
    (hnote : ∀ s t d, R s t → R { s with rolePolicies := s.rolePolicies ++ [d] } t)
    (orderly : ∀ service ∈ q.services, service.Orderly) :
    Agree R (q.roles w) ((q.settledSource truth).resolve q.principals) := by
  have hsize : (q.roleSource w).size = (q.settledSource truth).size := rfl
  refine Agree.resolve (fun principals seen => ?_) hsize q.principals
  have hquery : (q.settledSource truth).query principals seen = q.services.foldlM (fun m service =>
      (q.roleCandidates service principals seen).foldlM (fun m p =>
        pure (if truth service p then m.put p else m)) m) {} := by
    simp only [settledSource, foundRolePolicies, List.foldlM_pure, List.foldl_flatMap, List.foldl_filter]
  rw [hquery]
  refine Agree.foldlM_same (fun m service hs => Agree.foldlM_same (fun m p hp => ?_) m) _
  have hp := (orderly service hs).rolePolicies.sound.get?_of_mem_related (List.mem_filter.mp hp).1
  have hput (held : Bool) : Agree R (do
      modify fun s => { s with rolePolicies := s.rolePolicies ++ [.ofRolePolicy p held] }
      return if held then
        match p.effect with
        | .grant => { m with granted := m.granted ++ [p] }
        | .deny => { m with denied := m.denied ++ [p] }
      else m) (pure (if held then m.put p else m)) :=
    fun s t hst => ⟨rfl, hnote s t _ hst⟩
  exact (hholds service hs p hp).bind hput

section Settled
variable {answers value : FunctionDefinition → List Json → Except Error Json}
  {used : FunctionDefinition → Prop} {times : Int → Prop} (pure : w.resolve.IsPure answers)
  (alike : AnswerAlike answers used) (timely : times w.now) (orderly : ∀ service ∈ q.services, service.Orderly)
  (uses : ∀ d, q.Uses d → used d)
include pure alike timely orderly uses

/-- While the answers of calls are settled, whether a role policy holds can be looked up beforehand. -/
theorem roles_eq_settledSource {start : Session σ} (hstart : Settled w.resolve used times value start.calls) :
    (q.roles w start).1 = ((q.settledSource fun service p =>
      (q.holds w service .rolePolicy service.rolePolicies p start).1).resolve q.principals ()).1 := by
  let R (s : Session σ) (_ : Unit) : Prop := Settled w.resolve used times value s.calls
  let truth (service : LoadedService) (p : RolePolicy) : Bool :=
    (q.holds w service .rolePolicy service.rolePolicies p start).1
  have hagree : Agree R (q.roles w) ((q.settledSource truth).resolve q.principals) := by
    refine agree_settledSource (fun service hs p hp => ?_) (fun _ _ _ hst => hst) orderly
    have hsteady : Steady (fun s : Session σ => Settled w.resolve used times value s.calls)
        (q.holds w service .rolePolicy service.rolePolicies p) :=
      steady_holds pure alike timely (fun d hd => uses d (.inl hd))
        (fun d hd => uses d (.inr ⟨service, hs, .inr hd⟩)) hp service .rolePolicy
    obtain ⟨b, hb⟩ := hsteady
    exact fun s _ hst => ⟨(hb s hst).1.trans (hb start hstart).1.symm, (hb s hst).2⟩
  exact (hagree start () hstart).1

/-- The roles are then those that a list of the role policies leads to. -/
theorem roles_eq_resolve (presents : q.principals ≠ []) (apart : q.Apart) {start : Session σ}
    (hstart : Settled w.resolve used times value start.calls) :
    (q.roles w start).1 = ((RoleSource.ofList (q.rolePolicies fun service p =>
      (q.holds w service .rolePolicy service.rolePolicies p start).1)).resolve q.principals ()).1 := by
  let truth (service : LoadedService) (p : RolePolicy) : Bool :=
    (q.holds w service .rolePolicy service.rolePolicies p start).1
  have hlist : ((q.rolePolicies truth).map (·.id)).Nodup := nodup_rolePolicies orderly apart
  refine (roles_eq_settledSource pure alike timely orderly uses hstart).trans ?_
  exact RoleResolution.resolve_congr (.refl _ _) hlist (servesFrom_settledSource orderly presents) hlist
    ((RoleSource.ofList_serves _).servesFrom _) () ()

end Settled

end Inquiry
end Turnstile

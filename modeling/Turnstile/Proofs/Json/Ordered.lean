import Mathlib.Data.List.Forall2
import Turnstile.Json.Decode
import Turnstile.Proofs.Dict

/-! Values with the members of every object in order, each name once. Exactly these can be read. -/
namespace Turnstile

namespace Json

/-- The members of every object are in increasing order of their names. -/
inductive Ordered : Json → Prop
  | null : Ordered null
  | bool (b : Bool) : Ordered (bool b)
  | number (n : Number) : Ordered (number n)
  | string (s : String) : Ordered (string s)
  | array {items : List Json} (h : ∀ v ∈ items, Ordered v) : Ordered (array items)
  | object {members : List (String × Json)} (sorted : members.Pairwise fun a b => a.1 < b.1)
      (h : ∀ e ∈ members, Ordered e.2) : Ordered (object members)

/-- Members in order stay as they are. -/
theorem obj_of_sorted {members : List (String × Json)} (h : members.Pairwise fun a b => a.1 < b.1) :
    obj members = object members :=
  congrArg Json.ofDict (Dict.ofList_entries ⟨members, h⟩)

theorem Ordered.ofDict {d : Dict Json} (h : ∀ v ∈ d.values, v.Ordered) : (Json.ofDict d).Ordered :=
  .object d.sorted fun e he => h e.2 (List.mem_map.mpr ⟨e, he, rfl⟩)

end Json

namespace Doc

theorem ofItems_eq (items : List Json) : ofItems items = items.map ofJson := by
  induction items with
  | nil => rfl
  | cons v r ih => exact congrArg _ ih

theorem ofMembers_eq (members : List (String × Json)) :
    ofMembers members = members.map fun e => (some e.1, ofJson e.2) := by
  induction members with
  | nil => rfl
  | cons e r ih => exact congrArg _ ih

mutual
/-- A value is passed over without a fault. -/
theorem skip_ofJson : (v : Json) → skip (ofJson v) = none
  | .null | .bool _ | .number _ | .string _ => rfl
  | .array items => by
    rw [ofJson, skip, skipItems_ofItems items]
    rfl
  | .object members => by
    rw [ofJson, skip, skipMembers_ofMembers members]
    rfl

theorem skipItems_ofItems : (items : List Json) → skipItems (ofItems items) = none
  | [] => rfl
  | v :: r => by
    rw [ofItems, skipItems, skip_ofJson v, skipItems_ofItems r]
    rfl

theorem skipMembers_ofMembers : (members : List (String × Json)) → skipMembers (ofMembers members) = none
  | [] => rfl
  | (n, v) :: r => by
    rw [ofMembers, skipMembers, skip_ofJson v, skipMembers_ofMembers r]
    rfl
end

end Doc

namespace Decoder
variable {α : Type} {d : Decoder α} {depth : Depth}

/-- A computation with a result has a result at each of its steps. -/
theorem exists_of_bind_eq_ok {ε β γ : Type} {x : Except ε β} {f : β → Except ε γ} {c : γ}
    (h : x >>= f = .ok c) : ∃ b, x = .ok b ∧ f b = .ok c := by
  cases x with
  | error e => cases h
  | ok b => exact ⟨b, rfl, h⟩

theorem items_eq_ok {docs : List Doc} {l : List α} (h : List.Forall₂ (fun doc a => d depth doc = .ok a) docs l) :
    items d depth docs = .ok l := by
  induction h with
  | nil => rfl
  | cons ha _ ih =>
    rw [items, ha, ih]
    rfl

/-- Members with names are inserted one after the other. -/
theorem members_eq_ok {β : Type} (f : β → Doc) (g : β → α) {entries : List (String × β)}
    (h : ∀ e ∈ entries, d depth (f e.2) = .ok (g e.2)) (start : Dict α) :
    members d depth start (entries.map fun e => (some e.1, f e.2)) =
      .ok (entries.foldl (fun m e => m.insert e.1 (g e.2)) start) := by
  induction entries generalizing start with
  | nil => rfl
  | cons e r ih =>
    rw [List.map_cons, members, h e List.mem_cons_self, List.foldl_cons,
      ← ih (fun e he => h e (List.mem_cons_of_mem _ he))]
    rfl

theorem jsonItems_eq (depth : Depth) (docs : List Doc) : jsonItems depth docs = items json depth docs := by
  induction docs with
  | nil => rfl
  | cons doc r ih => rw [jsonItems, ih, items]

theorem jsonMembers_eq (depth : Depth) (docs : List (Option String × Doc)) (start : Dict Json) :
    jsonMembers depth start docs = members json depth start docs := by
  induction docs generalizing start with
  | nil => rfl
  | cons e r ih =>
    obtain ⟨n, doc⟩ := e
    cases n with
    | none => rfl
    | some n =>
      rw [jsonMembers, members]
      simp only [ih]

/-- A value with its members in order is read as it is. -/
theorem json_ofJson {v : Json} (h : v.Ordered) : json none (Doc.ofJson v) = .ok v := by
  induction h with
  | null | bool b | number n | string s => rfl
  | array h ih =>
    rename_i items
    have hitems : jsonItems none (Doc.ofItems items) = .ok items := by
      rw [jsonItems_eq, Doc.ofItems_eq]
      refine items_eq_ok (List.forall₂_map_left_iff.mpr (List.forall₂_same.mpr ih))
    rw [Doc.ofJson, json, Depth.enter]
    show (jsonItems none (Doc.ofItems items) >>= _) = _
    rw [hitems]
    rfl
  | object sorted h ih =>
    rename_i members
    have hmembers : jsonMembers none .empty (Doc.ofMembers members) = .ok ⟨members, sorted⟩ := by
      rw [jsonMembers_eq, Doc.ofMembers_eq, members_eq_ok Doc.ofJson id ih]
      exact congrArg _ (Dict.ofList_entries ⟨members, sorted⟩)
    rw [Doc.ofJson, json, Depth.enter]
    show (jsonMembers none .empty (Doc.ofMembers members) >>= _) = _
    rw [hmembers]
    rfl

mutual
/-- What is read has its members in order. -/
theorem ordered_of_json : (doc : Doc) → ∀ {depth v}, json depth doc = .ok v → v.Ordered
  | .null, _, _, h => by
    cases h
    exact .null
  | .bool _, _, _, h => by
    cases h
    exact .bool _
  | .number _, _, _, h => by
    cases h
    exact .number _
  | .string _, _, _, h => by
    cases h
    exact .string _
  | .array docs tail, _, _, h => by
    obtain ⟨_, -, h⟩ := exists_of_bind_eq_ok h
    obtain ⟨l, hl, h⟩ := exists_of_bind_eq_ok h
    obtain ⟨_, -, h⟩ := exists_of_bind_eq_ok h
    cases h
    exact .array (ordered_of_jsonItems docs hl)
  | .object docs tail, _, _, h => by
    obtain ⟨_, -, h⟩ := exists_of_bind_eq_ok h
    obtain ⟨m, hm, h⟩ := exists_of_bind_eq_ok h
    obtain ⟨_, -, h⟩ := exists_of_bind_eq_ok h
    cases h
    exact .ofDict (ordered_of_jsonMembers docs (List.forall_mem_nil _) hm)
  | .unreadable, _, _, h => nomatch h
  | .broken _, _, _, h => nomatch h

theorem ordered_of_jsonItems : (docs : List Doc) → ∀ {depth l}, jsonItems depth docs = .ok l →
    ∀ v ∈ l, v.Ordered
  | [], _, _, h => by
    cases h
    exact List.forall_mem_nil _
  | doc :: r, _, _, h => by
    obtain ⟨v, hv, h⟩ := exists_of_bind_eq_ok h
    obtain ⟨l, hl, h⟩ := exists_of_bind_eq_ok h
    cases h
    exact List.forall_mem_cons.mpr ⟨ordered_of_json doc hv, ordered_of_jsonItems r hl⟩

theorem ordered_of_jsonMembers : (docs : List (Option String × Doc)) → ∀ {depth start m},
    (∀ v ∈ start.values, v.Ordered) → jsonMembers depth start docs = .ok m → ∀ v ∈ m.values, v.Ordered
  | [], _, _, _, hstart, h => by
    cases h
    exact hstart
  | (none, _) :: _, _, _, _, _, h => nomatch h
  | (some n, doc) :: r, _, _, _, hstart, h => by
    obtain ⟨v, hv, h⟩ := exists_of_bind_eq_ok h
    exact ordered_of_jsonMembers r (Dict.forall_values_insert hstart (ordered_of_json doc hv)) h
end

/-- The values with their members in order are those that can be read. -/
theorem ordered_iff {v : Json} : v.Ordered ↔ ∃ doc, json none doc = .ok v :=
  ⟨fun h => ⟨_, json_ofJson h⟩, fun ⟨doc, h⟩ => ordered_of_json doc h⟩

/-- A value has its members in order if it can be read back. -/
instance (v : Json) : Decidable v.Ordered :=
  decidable_of_iff (json none (Doc.ofJson v) = .ok v) ⟨fun h => ordered_iff.mpr ⟨_, h⟩, json_ofJson⟩

end Decoder
end Turnstile

import Mathlib.Data.List.Nodup
import Turnstile.Json.Encode
import Turnstile.Proofs.Json.Ordered

/-! Reading what was written. A decoder reads a value from its written form; what holds of the parts of a record
holds of the record, whichever of its members are left out. -/
namespace Turnstile

/-- An object is a record that leaves nothing out. -/
theorem Json.obj_eq_record (members : List (String × Json)) :
    obj members = record (members.map fun m => (m.1, some m.2)) := by
  rw [record, List.filterMap_map]
  exact congrArg obj List.filterMap_some.symm

namespace Decoder
variable {α : Type}

/-- The value `a` is read from the written form `v`, however deep it nests. -/
def Reads (d : Decoder α) (v : Json) (a : α) : Prop := d none (Doc.ofJson v) = .ok a

variable {d : Decoder α} {f : α → Json}

theorem Reads.map {β : Type} {v : Json} {a : α} (h : d.Reads v a) (g : α → β) : (d.map g).Reads v (g a) :=
  congrArg (Except.map g) h

theorem reads_string (s : String) : string.Reads (.string s) s := rfl

theorem reads_bool (b : Bool) : bool.Reads (.bool b) b := rfl

theorem reads_whole (low high : Int) (name : String) {n : Int} (hlow : -0x8000000000000000 ≤ n ∧ low ≤ n)
    (hhigh : n < 0x10000000000000000 ∧ n ≤ high) : (whole low high name).Reads (.int n) n := by
  have hn : Json.int n = .number (.whole ⟨n, hlow.1, hhigh.1⟩) := by
    rw [Json.int, Number.ofInt, WholeNumber.of?, dif_pos ⟨hlow.1, hhigh.1⟩]
  rw [Reads, hn, Doc.ofJson, whole, if_pos (by simp [hlow.2, hhigh.2])]

theorem reads_int64 (n : Int64) : int64.Reads (Json.int64 n) n := by
  have hlow := n.minValue_le_toInt
  have hlt := n.toInt_lt
  have h := (reads_whole _ _ "i64" ⟨hlow, hlow⟩ ⟨by omega, n.toInt_le⟩).map Int64.ofInt
  rwa [Int64.ofInt_toInt] at h

/-- Counts and times have one range, which errors name differently. -/
theorem reads_unsigned (n : UInt64) (name : String) :
    ((whole 0 (UInt64.size - 1) name).map fun i => UInt64.ofNat i.toNat).Reads (Json.uint64 n) n := by
  have hn := n.toNat_lt
  have hsize : (UInt64.size : Int) = 0x10000000000000000 := rfl
  have h := (reads_whole 0 (UInt64.size - 1) name (n := n.toNat) (by omega) (by omega)).map
    fun i => UInt64.ofNat i.toNat
  rwa [Int.toNat_natCast, UInt64.ofNat_toNat] at h

theorem reads_uint64 (n : UInt64) : uint64.Reads (Json.uint64 n) n := reads_unsigned n "u64"

theorem reads_count (n : UInt64) : count.Reads (Json.uint64 n) n := reads_unsigned n "usize"

theorem reads_option {v : Json} {a : α} (h : d.Reads v a) (hv : v ≠ .null) : (option d).Reads v (some a) := by
  have hoption : option d none (Doc.ofJson v) = (d none (Doc.ofJson v)).map some := by
    cases v with
    | null => exact absurd rfl hv
    | _ => rfl
  rw [Reads, hoption, h]
  rfl

theorem reads_list {l : List α} (h : ∀ a ∈ l, d.Reads (f a) a) : (list d).Reads (Json.list f l) l := by
  have hitems : items d none (Doc.ofItems (l.map f)) = .ok l := by
    rw [Doc.ofItems_eq, List.map_map]
    exact items_eq_ok (List.forall₂_map_left_iff.mpr (List.forall₂_same.mpr h))
  show (items d none (Doc.ofItems (l.map f)) >>= _) = _
  rw [hitems]
  rfl

theorem reads_strings (l : List String) : (list string).Reads (Json.strings l) l :=
  reads_list (fun s _ => reads_string s)

theorem reads_dict {m : Dict α} (h : ∀ a ∈ m.values, d.Reads (f a) a) : (dict d).Reads (Json.dict f m) m := by
  have hmembers : members d none .empty (Doc.ofMembers (m.map f).entries) = .ok m := by
    rw [Doc.ofMembers_eq, Dict.map, List.map_map]
    have hentries : ∀ e ∈ m.entries, d none (Doc.ofJson (f e.2)) = .ok (id e.2) := fun e he =>
      h e.2 (List.mem_map.mpr ⟨e, he, rfl⟩)
    exact (members_eq_ok (fun a => Doc.ofJson (f a)) id hentries _).trans (congrArg _ (Dict.ofList_entries m))
  show (members d none .empty (Doc.ofMembers (m.map f).entries) >>= _) = _
  rw [hmembers]
  rfl

/-- Any members whose values are in order are read as they are. -/
theorem reads_attributes {m : Dict Json} (h : ∀ v ∈ m.values, v.Ordered) : (dict json).Reads (.ofDict m) m := by
  have hm : m.map id = m := Dict.ext_get? fun k => (Dict.get?_map ..).trans (congrFun Option.map_id_fun _)
  have hdict := reads_dict (f := id) fun v hv => json_ofJson (h v hv)
  rwa [Json.dict, hm] at hdict

theorem reads_choice [BEq α] {all : List α} {name : α → String} {a : α}
    (h : all.find? (name · = name a) = some a) : (choice all name).Reads (.string (name a)) a := by
  rw [Reads, Doc.ofJson, choice]
  dsimp only
  rw [h]

end Decoder

namespace Fields
open Decoder (Reads reads_string reads_option reads_list reads_dict)
variable {α β : Type}

/-- The fields are read from every object that has the members with values and lacks those without. -/
structure Reads (x : Fields α) (members : List (String × Option Json)) (a : α) : Prop where
  names : members.map (·.1) = x.names
  read : ∀ d : Dict Json, (∀ m ∈ members, d.get? m.1 = m.2) →
    ∀ place, x.read none (.named (Doc.ofMembers d.entries)) place = .ok a

variable {x : Fields α} {members others : List (String × Option Json)} {a : α}

theorem Reads.map (h : x.Reads members a) (g : α → β) : (g <$> x).Reads members (g a) where
  names := h.names
  read d hd place := congrArg (both (.ok g)) (h.read d hd (place + 0))

theorem Reads.seq {g : Fields (α → β)} {b : α → β} (hg : g.Reads members b) (hx : x.Reads others a) :
    (g <*> x).Reads (members ++ others) (b a) where
  names := by
    rw [List.map_append, hg.names, hx.names]
    rfl
  read d hd place := by
    rw [List.forall_mem_append] at hd
    have hb := hg.read d hd.1 place
    have ha := hx.read d hd.2 (place + g.names.length)
    show both (g.read none _ place) (x.read none _ (place + g.names.length)) = _
    rw [hb, ha]
    rfl

/-- A name is looked for among the members with their values. -/
theorem find_ofMembers (name : String) (l : List (String × Json)) (place : Nat) :
    (find name place (Doc.ofMembers l)).map (·.2) = (l.find? (·.1 = name)).map fun e => Doc.ofJson e.2 := by
  induction l generalizing place with
  | nil => rfl
  | cons e r ih =>
    rw [Doc.ofMembers, find]
    by_cases he : e.1 = name
    · rw [if_pos (congrArg some he), List.find?_cons_of_pos (by simpa using he)]
      rfl
    · rw [if_neg (fun h => he (Option.some.inj h)), List.find?_cons_of_neg (by simpa using he), ih]

theorem find_of_get? {d : Dict Json} {name : String} {v : Json} (h : d.get? name = some v) :
    ∃ place, find name 0 (Doc.ofMembers d.entries) = some (place, Doc.ofJson v) := by
  obtain ⟨e, he, rfl⟩ := Option.map_eq_some_iff.mp h
  have hfind := find_ofMembers name d.entries 0
  rw [he] at hfind
  obtain ⟨p, hp, hdoc⟩ := Option.map_eq_some_iff.mp hfind
  exact ⟨p.1, hp.trans (congrArg some (Prod.ext rfl hdoc))⟩

theorem find_of_get?_none {d : Dict Json} {name : String} (h : d.get? name = none) :
    find name 0 (Doc.ofMembers d.entries) = none := by
  have hfind := find_ofMembers name d.entries 0
  rw [Option.map_eq_none_iff.mp h] at hfind
  exact Option.map_eq_none_iff.mp hfind

variable {name : String} {d : Decoder α} {f : α → Json} {fallback : Option α}

theorem read_field (ms : List (Option String × Doc)) (place : Nat) :
    (field name d fallback).read none (.named ms) place = match find name 0 ms with
    | some (place, doc) => located place (d none doc)
    | none => absent fallback (ms.length + 1) (.missing name) := rfl

theorem reads_present {v : Json} (h : d.Reads v a) : (field name d fallback).Reads [(name, some v)] a := by
  refine ⟨rfl, fun m hm place => ?_⟩
  obtain ⟨p, hp⟩ := find_of_get? (hm _ List.mem_cons_self)
  rw [read_field, hp]
  exact congrArg (located p) h

theorem reads_absent (name : String) (d : Decoder α) (a : α) : (field name d (some a)).Reads [(name, none)] a := by
  refine ⟨rfl, fun m hm place => ?_⟩
  rw [read_field, find_of_get?_none (hm _ List.mem_cons_self)]
  rfl

/-- A value that is absent is read as the absence of a value. -/
theorem reads_optional (f : α → Json) {o : Option α} (h : ∀ a, o = some a → d.Reads (f a) a ∧ f a ≠ .null) :
    (optional name d).Reads [(name, o.map f)] o := by
  cases o with
  | none => exact reads_absent _ _ _
  | some a => exact reads_present (reads_option (h a rfl).1 (h a rfl).2)

theorem reads_nonEmptyText (s : String) : (withDefault name .string "").Reads [(name, Json.nonEmptyText s)] s := by
  rw [Json.nonEmptyText]
  split
  · next hs => exact String.isEmpty_iff.mp hs ▸ reads_absent _ _ _
  · exact reads_present (reads_string s)

theorem reads_nonEmptyList {l : List α} (h : ∀ a ∈ l, d.Reads (f a) a) :
    (withDefault name (.list d) []).Reads [(name, Json.nonEmptyList f l)] l := by
  rw [Json.nonEmptyList]
  split
  · next hl => exact List.isEmpty_iff.mp hl ▸ reads_absent _ _ _
  · exact reads_present (reads_list h)

theorem reads_nonEmptyDict {m : Dict α} (h : ∀ a ∈ m.values, d.Reads (f a) a) :
    (withDefault name (.dict d) .empty).Reads [(name, Json.nonEmptyDict f m)] m := by
  rw [Json.nonEmptyDict]
  split
  · next hm =>
    obtain rfl : m = .empty := Dict.ext_get? fun k => Dict.get?_eq_none_iff.mpr (Dict.isEmpty_iff.mp hm k)
    exact reads_absent _ _ _
  · exact reads_present (reads_dict h)

/-- Members with different names are no fault, whether or not they are fields. -/
theorem disorder_ofMembers (names : List String) {l : List (String × Json)} (h : (l.map (·.1)).Nodup)
    (seen : List String) (hseen : ∀ e ∈ l, e.1 ∉ seen) (place : Nat) :
    disorder names none seen place (Doc.ofMembers l) = none := by
  induction l generalizing seen place with
  | nil => rfl
  | cons e r ih =>
    obtain ⟨he, hr⟩ := List.nodup_cons.mp h
    have hrest := fun e' he' => hseen e' (List.mem_cons_of_mem _ he')
    rw [Doc.ofMembers, disorder]
    split
    · rw [if_neg (hseen e List.mem_cons_self)]
      refine ih hr _ (fun e' he' => List.not_mem_cons_of_ne_of_not_mem (fun hname => he ?_) (hrest e' he')) _
      exact List.mem_map.mpr ⟨e', he', hname⟩
    · rw [Doc.skip_ofJson]
      exact ih hr _ hrest _

end Fields

namespace Decoder
variable {α : Type}

/-- The members of a record are those with values. -/
theorem get?_members {members : List (String × Option Json)} (h : (members.map (·.1)).Nodup) :
    ∀ m ∈ members, (Dict.ofList (members.filterMap fun m => m.2.map (m.1, ·))).get? m.1 = m.2 := by
  intro m hm
  have hmem : ∀ v, (m.1, v) ∈ members.filterMap (fun m => m.2.map (m.1, ·)) ↔ m.2 = some v := by
    intro v
    rw [List.mem_filterMap]
    constructor
    · rintro ⟨n, hn, hv⟩
      obtain ⟨w, hw, he⟩ := Option.map_eq_some_iff.mp hv
      obtain ⟨hname, rfl⟩ := Prod.mk.inj he
      rw [← List.inj_on_of_nodup_map h hn hm hname, hw]
    · intro hv
      exact ⟨m, hm, Option.map_eq_some_iff.mpr ⟨v, hv, rfl⟩⟩
  refine Option.ext fun v => ?_
  rw [Dict.get?_ofList_iff fun v w hv hw => ?_, hmem]
  exact Option.some.inj (((hmem v).mp hv).symm.trans ((hmem w).mp hw))

/-- A record whose fields have different names is read from its written form when its fields are. -/
theorem reads_record {name : String} {members read : List (String × Option Json)} {fields : Fields α} {a : α}
    (h : fields.Reads read a) (hread : read = members) (hnames : fields.names.Nodup) :
    (record name fields).Reads (.record members) a := by
  subst hread
  have hfields := h.read _ (get?_members (h.names ▸ hnames)) 0
  have horder := Fields.disorder_ofMembers fields.names
    (Dict.nodup_keys (.ofList (read.filterMap fun m => m.2.map (m.1, ·)))) [] (fun _ _ => List.not_mem_nil) 0
  show Fields.settle (Fields.disorder fields.names none [] 0 _) (fields.read none (.named _) 0) = _
  rw [horder, hfields]
  rfl

end Decoder
end Turnstile

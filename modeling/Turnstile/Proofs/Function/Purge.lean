import Turnstile.Proofs.Function.Calls

/-! The results of one function. A key tells its function, so the results of a function can be dropped by the text
that its keys begin with. Function names have no opening parenthesis here: a name that had one could begin like the
key of a call. -/
namespace Turnstile.ResultCache

/-- Results of the function are kept under this key. -/
def IsKeyOf (name k : String) : Prop := ∃ args, k = key name args

/-- The results are those of calls of functions that have no opening parenthesis in their names. -/
def Keyed (c : ResultCache) : Prop := ∀ k ∈ c.entries, ∃ name, '(' ∉ name.toList ∧ IsKeyOf name k

variable {c : ResultCache} {name other k : String} {args : List Json} {r : CachedResult}

private theorem takeWhile_append_open {l : List Char} (h : '(' ∉ l) (rest : List Char) :
    (l ++ '(' :: rest).takeWhile (· ≠ '(') = l := by
  have hall : ∀ c ∈ l, decide (c ≠ '(') = true := fun c hc => decide_eq_true fun he => h (he ▸ hc)
  rw [List.takeWhile_append_of_pos hall, List.takeWhile_cons_of_neg (by decide), List.append_nil]

/-- Of the names without an opening parenthesis only that of the function itself begins its keys. -/
theorem isCallOf_key_iff (hname : '(' ∉ name.toList) (hother : '(' ∉ other.toList) :
    isCallOf name (key other args) = true ↔ name = other := by
  constructor
  · intro h
    obtain ⟨rest, hrest⟩ := isCallOf_iff.mp h
    have hfront := congrArg (List.takeWhile (· ≠ '(')) (hrest.symm.trans (toList_key other args))
    rw [takeWhile_append_open hname, takeWhile_append_open hother] at hfront
    exact String.toList_inj.mp hfront
  · rintro rfl
    exact isCallOf_key_self name args

theorem Keyed.isCallOf_iff (h : c.Keyed) (hname : '(' ∉ name.toList) (hk : k ∈ c.entries) :
    isCallOf name k = true ↔ IsKeyOf name k := by
  obtain ⟨other, hother, args, rfl⟩ := h k hk
  rw [isCallOf_key_iff hname hother]
  constructor
  · rintro rfl
    exact ⟨args, rfl⟩
  · rintro ⟨args', hkey⟩
    exact (key_inj hkey).1.symm

/-- A purge takes the results of the function, and no others. -/
theorem Keyed.get?_purge_iff (h : c.Keyed) (hname : '(' ∉ name.toList) :
    (c.purge name).entries.get? k = some r ↔ c.entries.get? k = some r ∧ ¬ IsKeyOf name k := by
  rw [get?_entries_purge, ite_eq_iff]
  constructor
  · rintro (⟨-, hr⟩ | ⟨hcall, hr⟩)
    · cases hr
    · exact ⟨hr, mt (h.isCallOf_iff hname (Dict.mem_of_get? hr)).mpr hcall⟩
  · rintro ⟨hr, hother⟩
    exact .inr ⟨mt (h.isCallOf_iff hname (Dict.mem_of_get? hr)).mp hother, hr⟩

/-- Keys never mix calls or functions: a key tells the name and the arguments, whatever the name is and whatever
texts the arguments hold. So a purge takes all results of the function and none of another one, also where the other
name goes on from this one, or where this one stands before a parenthesis within the arguments. -/
theorem purge_by_name :
    (∀ name name' args args', key name args = key name' args' → name = name' ∧ args = args') ∧
    ∀ c : ResultCache, c.Keyed → ∀ name : String, '(' ∉ name.toList →
      (∀ k r, (c.purge name).entries.get? k = some r ↔ c.entries.get? k = some r ∧ ¬ IsKeyOf name k) ∧
      (∀ args, (c.purge name).entries.get? (key name args) = none) ∧
      ∀ other args, other ≠ name → (c.purge name).entries.get? (key other args) = c.entries.get? (key other args) := by
  refine ⟨fun _ _ _ _ => key_inj, fun c hc name hname => ⟨fun k r => hc.get?_purge_iff hname, fun args => ?_,
    fun other args hother => ?_⟩⟩
  · rw [get?_entries_purge, if_pos (isCallOf_key_self name args)]
  · refine Option.ext fun r => ?_
    rw [hc.get?_purge_iff hname]
    exact and_iff_left fun ⟨_, hkey⟩ => hother (key_inj hkey).1

/-- Results of three functions: one name begins another one, and the third function was called with a text that
looks like a call of the first one. -/
def drawer : ResultCache := ⟨.ofList [
  (key "Open" [.string "b, c"], ⟨.bool true, 0⟩),
  (key "Open" [.string "b", .string "c"], ⟨.bool false, 0⟩),
  (key "OpenAt" [.int 9], ⟨.bool true, 0⟩),
  (key "Say" [.string "Open(\"b, c\")"], ⟨.null, 0⟩)]⟩

theorem purge_by_name_drawer : drawer.Keyed ∧ '(' ∉ "Open".toList ∧
    key "Open" [.string "b, c"] ≠ key "Open" [.string "b", .string "c"] ∧
    (drawer.purge "Open").entries.get? (key "Open" [.string "b", .string "c"]) = none ∧
    (drawer.purge "Open").entries.get? (key "OpenAt" [.int 9]) = some ⟨.bool true, 0⟩ ∧
    (drawer.purge "Open").entries.get? (key "Say" [.string "Open(\"b, c\")"]) = some ⟨.null, 0⟩ := by
  have hkeyed : drawer.Keyed := by
    intro k hk
    have hlisted := Dict.mem_ofList.mp hk
    simp only [List.map_cons, List.map_nil, List.mem_cons, List.not_mem_nil, or_false] at hlisted
    rcases hlisted with rfl | rfl | rfl | rfl
    · exact ⟨"Open", by decide, _, rfl⟩
    · exact ⟨"Open", by decide, _, rfl⟩
    · exact ⟨"OpenAt", by decide, _, rfl⟩
    · exact ⟨"Say", by decide, _, rfl⟩
  have hname : '(' ∉ "Open".toList := by decide
  obtain ⟨hkeys, hpurge⟩ := purge_by_name
  obtain ⟨-, hgone, hothers⟩ := hpurge drawer hkeyed "Open" hname
  refine ⟨hkeyed, hname, fun h => ?_, hgone _, ?_, ?_⟩
  · exact absurd (hkeys _ _ _ _ h).2 (by decide)
  · rw [hothers _ _ (by decide)]
    decide +kernel
  · rw [hothers _ _ (by decide)]
    decide +kernel

end Turnstile.ResultCache

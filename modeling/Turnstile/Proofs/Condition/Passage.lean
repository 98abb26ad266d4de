import Turnstile.Condition.Compiled
import Turnstile.Proofs.Json.Ordered

/-! Values of interchange on their way through conditions. To become a value of the language and back changes none of
them, so a function is called with what the attributes or other functions hold, and its results stay what they are. -/
namespace Turnstile

namespace Condition.Value

theorem ofItems_eq (items : List Json) : ofItems items = items.map ofJson := by
  induction items with
  | nil => rfl
  | cons v r ih => exact congrArg _ ih

theorem ofMembers_eq (members : List (String × Json)) :
    ofMembers members = members.map fun e => (.string e.1, ofJson e.2) := by
  induction members with
  | nil => rfl
  | cons e r ih => exact congrArg _ ih

theorem toItems_eq (items : List Value) : toItems items = items.map toJson := by
  induction items with
  | nil => rfl
  | cons v r ih => exact congrArg _ ih

theorem toMembers_eq (entries : List (Key × Value)) :
    toMembers entries = entries.map fun e => (e.1.text, toJson e.2) := by
  induction entries with
  | nil => rfl
  | cons e r ih => exact congrArg _ ih

/-- Whole numbers have a sign in the language unless they are too large for it. -/
theorem ofJson_whole (n : WholeNumber) : ofJson (.number (.whole n)) =
    if n.val < 0x8000000000000000 then int (.ofInt n.val) else uint (.ofNat n.val.toNat) := rfl

theorem toJson_whole (n : WholeNumber) : (ofJson (.number (.whole n))).toJson = .number (.whole n) := by
  have hint : Json.int n.val = .number (.whole n) := by rw [Json.int, Number.ofInt, n.of?_val]
  have hlow := n.low
  have hhigh := n.high
  rw [ofJson_whole]
  split
  · next h => rw [toJson, Int64.toInt_ofInt_of_le hlow h, hint]
  · next h =>
    rw [toJson, UInt64.toNat_ofNat_of_lt' (by rw [UInt64.size]; omega), Int.toNat_of_nonneg (by omega), hint]

theorem toJson_float (x : FiniteFloat) : (ofJson (.number (.float x))).toJson = .number (.float x) := by
  rw [ofJson, toJson, Json.float, x.of?_value]

private theorem map_toJson_of_forall {vs : List Json} (h : ∀ v ∈ vs, (ofJson v).toJson = v) :
    (vs.map ofJson).map toJson = vs := by
  rw [List.map_map]
  exact (List.map_congr_left h).trans (List.map_id _)

/-- What becomes a value of the language comes back as it was. -/
theorem toJson_ofJson {v : Json} (h : v.Ordered) : (ofJson v).toJson = v := by
  induction h with
  | null | bool b | string s => rfl
  | number n =>
    cases n with
    | whole n => exact toJson_whole n
    | float x => exact toJson_float x
  | @array items h ih =>
    rw [ofJson, toJson, ofItems_eq, toItems_eq, map_toJson_of_forall ih]
  | @object members sorted h ih =>
    have hmember : ∀ e ∈ members, (e.1, (ofJson e.2).toJson) = e := fun e he => Prod.ext rfl (ih e he)
    have hmembers : toMembers (ofMembers members) = members := by
      rw [ofMembers_eq, toMembers_eq, List.map_map]
      exact (List.map_congr_left hmember).trans (List.map_id _)
    rw [ofJson, toJson, hmembers, Json.obj_of_sorted sorted]

example : ofJson (.int 0xffffffffffffffff) = .uint 0xffffffffffffffff := rfl

theorem map_toJson_ofJson {vs : List Json} (h : ∀ v ∈ vs, v.Ordered) : (vs.map ofJson).map toJson = vs :=
  map_toJson_of_forall fun v hv => toJson_ofJson (h v hv)

theorem lookup_ofMembers (name : String) (members : List (String × Json)) :
    lookup (.string name) (ofMembers members) = ((members.find? (·.1 = name)).map (·.2)).map ofJson := by
  induction members with
  | nil => rfl
  | cons e r ih =>
    rw [ofMembers, lookup]
    by_cases he : e.1 = name
    · rw [if_pos (congrArg Key.string he.symm), List.find?_cons_of_pos (by simpa using he)]
      rfl
    · rw [if_neg (fun h => he (Key.string.inj h).symm), List.find?_cons_of_neg (by simpa using he), ih]

/-- A member of an object is the entry of its name. -/
theorem lookup_of_mem {members : List (String × Json)} (sorted : members.Pairwise fun a b => a.1 < b.1) {name : String}
    {v : Json} (h : (name, v) ∈ members) : lookup (.string name) (ofMembers members) = some (ofJson v) := by
  rw [lookup_ofMembers]
  exact congrArg _ ((Dict.mem_entries_iff ⟨members, sorted⟩ name v).mp h)

theorem index_entry {members : List (String × Json)} (sorted : members.Pairwise fun a b => a.1 < b.1) {name : String}
    {v : Json} (h : (name, v) ∈ members) : (ofJson (.object members)).index (.string name) = .ok (ofJson v) := by
  have hlookup : lookupEither (.string name) (ofMembers members) = some (ofJson v) := by
    show (lookup (.string name) (ofMembers members)).or none = _
    rw [lookup_of_mem sorted h, Option.some_or]
  show Except.ok ((lookupEither (.string name) (ofMembers members)).getD null) = _
  rw [hlookup, Option.getD_some]

theorem index_item {items : List Json} {n : Int64} (hn : 0 ≤ n) {v : Json} (h : items[n.toInt.toNat]? = some v) :
    (ofJson (.array items)).index (.int n) = .ok (ofJson v) := by
  rw [ofJson, index, if_pos hn, ofItems_eq, List.getD_eq_getElem?_getD, List.getElem?_map, h, Option.map_some,
    Option.getD_some]

end Condition.Value

/-- After a step that gives a value the rest goes on with the value from the state that the step leaves. -/
theorem Condition.Eval.bind_of_eq {σ α β : Type} {x : Eval σ α} {s t : σ} {a : α} (h : x s = (.ok a, t))
    (f : α → Eval σ β) : (x >>= f) s = f a t := by
  show ExceptT.bindCont f (x s).1 (x s).2 = _
  rw [h]
  rfl

namespace CompiledCondition
open Condition
open Condition.Value (ofJson)
variable {σ : Type} (resolve : Resolver σ) (now : Int) (functions : FunctionTable) (attributes : Dict Json)

mutual
/-- From one state to another an expression hands on an attribute, the result of a function, or a part of one. -/
inductive HandsOn : Expr → σ × ResultCache → Json → σ × ResultCache → Prop
  | attribute {name v s} (h : attributes.get? name = some v) : HandsOn (.ident name) s v s
  | member {e s members t name v} (h : HandsOn e s (.object members) t) (hv : (name, v) ∈ members) :
      HandsOn (.select e name) s v t
  | entry {e s members t i name u v} (h : HandsOn e s (.object members) t)
      (hi : i.eval (scope resolve now functions attributes) t = (.ok (.string name), u)) (hv : (name, v) ∈ members) :
      HandsOn (.index e i) s v u
  | item {e s items t i n u v} (h : HandsOn e s (.array items) t)
      (hi : i.eval (scope resolve now functions attributes) t = (.ok (.int n), u)) (hn : 0 ≤ n)
      (hv : items[n.toInt.toNat]? = some v) : HandsOn (.index e i) s v u
  | list {items s vs t} (h : HandsOnAll items s vs t) : HandsOn (.list items) s (.array vs) t
  | conditional {test yes no s b t v u} (htest : test.eval (scope resolve now functions attributes) s = (.ok b, t))
      (h : HandsOn (if b.truth then yes else no) t v u) : HandsOn (.conditional test yes no) s v u
  | first {a b s v t} (h : HandsOn a s v t) (hv : (ofJson v).truth = true) : HandsOn (.or a b) s v t
  | second {a b s w t v u} (ha : a.eval (scope resolve now functions attributes) s = (.ok w, t))
      (hw : w.truth = false) (h : HandsOn b t v u) : HandsOn (.or a b) s v u
  | result {target name args f s this t vs u v w} (hf : functions.get? name = some f)
      (htarget : Expr.evalTarget target (scope resolve now functions attributes) s = (.ok this, t))
      (h : HandsOnAll args t vs u) (hv : f.call resolve now vs u = (.ok v, w)) (hordered : v.Ordered) :
      HandsOn (.call target name args) s v w

inductive HandsOnAll : List Expr → σ × ResultCache → List Json → σ × ResultCache → Prop
  | nil {s} : HandsOnAll [] s [] s
  | cons {e r s v t vs u} (h : HandsOn e s v t) (hr : HandsOnAll r t vs u) : HandsOnAll (e :: r) s (v :: vs) u
end

/-- How the language takes the answer of a function. -/
def taken (name : String) (answer : Except Error Json × σ × ResultCache) : Except Fault Value × σ × ResultCache :=
  (match answer.1 with
    | .ok v => .ok (ofJson v)
    | .error e => .error (.functionFailed name e.message), answer.2)

variable {resolve now functions attributes}

/-- A function is called with the values that the arguments were. -/
theorem callable_ofJson {vs : List Json} (h : ∀ v ∈ vs, v.Ordered) (name : String) (f : Function)
    (s : σ × ResultCache) :
    callable resolve now name f (vs.map ofJson) s = taken name (f.call resolve now vs s) := by
  rw [callable, Value.map_toJson_ofJson h]
  generalize f.call resolve now vs s = answer
  obtain ⟨result, t⟩ := answer
  cases result with
  | ok v => rfl
  | error e => rfl

section
variable {s t u : σ × ResultCache}

theorem eval_call {target : Option Expr} {name : String} {args : List Expr} {f : Function} {this : Option Value}
    {vs : List Json} (hf : functions.get? name = some f)
    (htarget : Expr.evalTarget target (scope resolve now functions attributes) s = (.ok this, t))
    (hargs : Expr.evalItems args (scope resolve now functions attributes) t = (.ok (vs.map ofJson), u))
    (h : ∀ v ∈ vs, v.Ordered) :
    (Expr.call target name args).eval (scope resolve now functions attributes) s =
      taken name (f.call resolve now vs u) := by
  have hname : (scope resolve now functions attributes).functions name = some (callable resolve now name f) := by
    show (functions.get? name).map _ = _
    rw [hf, Option.map_some]
  rw [Expr.eval, hname]
  dsimp only
  rw [Eval.bind_of_eq htarget, Eval.bind_of_eq hargs, callable_ofJson h]

mutual
/-- What an expression hands on is its value. That it is in order is carried along, since members are found by
their order. -/
theorem eval_handsOn (hattributes : ∀ v ∈ attributes.values, v.Ordered) : {e : Expr} → {s : σ × ResultCache} →
    {v : Json} → {t : σ × ResultCache} → HandsOn resolve now functions attributes e s v t →
    v.Ordered ∧ e.eval (scope resolve now functions attributes) s = (.ok (ofJson v), t)
  | _, s, v, _, .attribute h => by
    refine ⟨hattributes v (Dict.mem_values.mpr ⟨_, h⟩), ?_⟩
    rw [Expr.eval, scope, Dict.get?_map, h]
    rfl
  | _, _, _, _, .member h hv => by
    obtain ⟨hordered, heval⟩ := eval_handsOn hattributes h
    cases hordered with
    | object sorted hmembers =>
      refine ⟨hmembers _ hv, ?_⟩
      rw [Expr.eval, Eval.bind_of_eq heval, Expr.member, ofJson, Value.member?, Value.lookup_of_mem sorted hv]
      rfl
  | _, _, _, _, .entry h hi hv => by
    obtain ⟨hordered, heval⟩ := eval_handsOn hattributes h
    cases hordered with
    | object sorted hmembers =>
      refine ⟨hmembers _ hv, ?_⟩
      rw [Expr.eval, Eval.bind_of_eq heval, Eval.bind_of_eq hi, Value.index_entry sorted hv]
      rfl
  | _, _, _, _, .item h hi hn hv => by
    obtain ⟨hordered, heval⟩ := eval_handsOn hattributes h
    cases hordered with
    | array hitems =>
      refine ⟨hitems _ (List.mem_of_getElem? hv), ?_⟩
      rw [Expr.eval, Eval.bind_of_eq heval, Eval.bind_of_eq hi, Value.index_item hn hv]
      rfl
  | _, _, _, _, .list h => by
    obtain ⟨hordered, heval⟩ := evalItems_handsOn hattributes h
    refine ⟨.array hordered, ?_⟩
    rw [Expr.eval, Eval.bind_of_eq heval, ofJson, Value.ofItems_eq]
    rfl
  | _, _, _, _, .conditional htest h => by
    obtain ⟨hordered, heval⟩ := eval_handsOn hattributes h
    refine ⟨hordered, ?_⟩
    rw [Expr.eval, Eval.bind_of_eq htest, ← heval]
    split <;> rfl
  | _, _, _, _, .first h hv => by
    obtain ⟨hordered, heval⟩ := eval_handsOn hattributes h
    refine ⟨hordered, ?_⟩
    rw [Expr.eval, Eval.bind_of_eq heval, if_pos hv]
    rfl
  | _, _, _, _, .second ha hw h => by
    obtain ⟨hordered, heval⟩ := eval_handsOn hattributes h
    refine ⟨hordered, ?_⟩
    rw [Expr.eval, Eval.bind_of_eq ha, if_neg (Bool.not_eq_true _ ▸ hw), heval]
  | _, _, _, _, .result hf htarget h hv hordered => by
    obtain ⟨hargs, heval⟩ := evalItems_handsOn hattributes h
    refine ⟨hordered, ?_⟩
    rw [eval_call hf htarget heval hargs, hv]
    rfl

theorem evalItems_handsOn (hattributes : ∀ v ∈ attributes.values, v.Ordered) : {items : List Expr} →
    {s : σ × ResultCache} → {vs : List Json} → {t : σ × ResultCache} →
    HandsOnAll resolve now functions attributes items s vs t → (∀ v ∈ vs, v.Ordered) ∧
      Expr.evalItems items (scope resolve now functions attributes) s = (.ok (vs.map ofJson), t)
  | _, _, _, _, .nil => ⟨List.forall_mem_nil _, rfl⟩
  | _, _, _, _, .cons h hr => by
    obtain ⟨hordered, heval⟩ := eval_handsOn hattributes h
    obtain ⟨hrest, hevals⟩ := evalItems_handsOn hattributes hr
    refine ⟨List.forall_mem_cons.mpr ⟨hordered, hrest⟩, ?_⟩
    rw [Expr.evalItems, Eval.bind_of_eq heval, Eval.bind_of_eq hevals]
    rfl
end

end

/-- A name that a condition binds to a value of interchange is as good as an attribute. -/
theorem scope_bind (name : String) (v : Json) : (scope resolve now functions attributes).bind name (ofJson v) =
    scope resolve now functions (attributes.insert name v) := by
  rw [Scope.bind, scope, scope, Dict.map_insert]

/-- Values of interchange pass through conditions unchanged, and whole numbers and floating-point ones stay apart.
What an expression hands on is its value, a function is called with the very values that its arguments come from,
and its results become values in turn. -/
theorem passes_unchanged (resolve : Resolver σ) (now : Int) (functions : FunctionTable) {attributes : Dict Json}
    (hattributes : ∀ v ∈ attributes.values, v.Ordered) :
    (∀ v : Json, v.Ordered → (ofJson v).toJson = v) ∧
      (∀ n x, ofJson (.number (.whole n)) ≠ .float x) ∧
      (∀ x : FiniteFloat, ofJson (.number (.float x)) = .float x.value) ∧
      (∀ e s v t, HandsOn resolve now functions attributes e s v t →
        v.Ordered ∧ e.eval (scope resolve now functions attributes) s = (.ok (ofJson v), t)) ∧
      (∀ args s vs t, HandsOnAll resolve now functions attributes args s vs t → (∀ v ∈ vs, v.Ordered) ∧
        Expr.evalItems args (scope resolve now functions attributes) s = (.ok (vs.map ofJson), t)) ∧
      (∀ target name args f s this t vs u, functions.get? name = some f →
        Expr.evalTarget target (scope resolve now functions attributes) s = (.ok this, t) →
        Expr.evalItems args (scope resolve now functions attributes) t = (.ok (vs.map ofJson), u) →
        (∀ v ∈ vs, v.Ordered) → (Expr.call target name args).eval (scope resolve now functions attributes) s =
          taken name (f.call resolve now vs u)) ∧
      (∀ name v, (scope resolve now functions attributes).bind name (ofJson v) =
        scope resolve now functions (attributes.insert name v)) := by
  refine ⟨fun v => Value.toJson_ofJson, fun n x => ?_, fun x => rfl, fun e s v t => eval_handsOn hattributes,
    fun args s vs t => evalItems_handsOn hattributes, fun target name args f s this t vs u => eval_call, scope_bind⟩
  rw [Value.ofJson_whole]
  split <;> nofun

/-- Answers every call with the first argument. -/
def echo : Resolver Unit := fun _ args s => (.ok (args.headD .null), s)

/-- Something that belongs to somebody. -/
def owned : Dict Json := Dict.empty.insert "owner" (.object [("level", .int 3)])

theorem passes_unchanged_echo :
    (∀ v ∈ owned.values, v.Ordered) ∧
      (Expr.select (.call none "echo" [.ident "owner"]) "level").eval
        (scope echo 0 (Dict.empty.insert "echo" (.custom { name := "echo" })) owned) ((), {}) =
          (.ok (.int 3), ((), {})) := by
  have howner : (Json.object [("level", .int 3)]).Ordered := by decide +kernel
  have howned : ∀ v ∈ owned.values, v.Ordered := List.forall_mem_singleton.mpr howner
  obtain ⟨-, -, -, heval, -⟩ :=
    passes_unchanged echo 0 (Dict.empty.insert "echo" (.custom { name := "echo" })) howned
  have hlevel := heval (.select (.call none "echo" [.ident "owner"]) "level") ((), {}) (.int 3) ((), {})
    (.member (.result rfl rfl (.cons (.attribute rfl) .nil) rfl howner) List.mem_cons_self)
  exact ⟨howned, hlevel.2⟩

end CompiledCondition
end Turnstile

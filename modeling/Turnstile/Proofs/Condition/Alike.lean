import Mathlib.Data.List.Forall2
import Turnstile.Condition.Compiled

/-! Conditions evaluated side by side. An expression calls functions only through its scope: where the functions
of two scopes return alike and keep two states related, so does every expression. -/
namespace Turnstile

/-- From related states two computations give one result and related states. -/
def Agree {σ τ α : Type} (R : σ → τ → Prop) (x : StateM σ α) (y : StateM τ α) : Prop :=
  ∀ s t, R s t → (x s).1 = (y t).1 ∧ R (x s).2 (y t).2

namespace Condition

/-- Both sides fail with one fault, or both give values, which are related. -/
inductive Outcomes {α β : Type} (P : α → β → Prop) : Except Fault α → Except Fault β → Prop
  | error (fault : Fault) : Outcomes P (.error fault) (.error fault)
  | ok {a : α} {b : β} (h : P a b) : Outcomes P (.ok a) (.ok b)

theorem Outcomes.eq {α : Type} {r r' : Except Fault α} (h : Outcomes Eq r r') : r = r' := by
  cases h with
  | error fault => rfl
  | ok h => rw [h]

theorem Outcomes.refl {α : Type} (r : Except Fault α) : Outcomes Eq r r := by
  cases r with
  | error fault => exact .error fault
  | ok a => exact .ok rfl

/-- From related states two evaluations have related outcomes, and they leave related states. -/
def Eval.Alike {σ τ α β : Type} (R : σ → τ → Prop) (P : α → β → Prop) (x : Eval σ α)
    (y : Eval τ β) : Prop :=
  ∀ s t, R s t → Outcomes P (x.run s).1 (y.run t).1 ∧ R (x.run s).2 (y.run t).2

namespace Eval.Alike
variable {σ τ α β γ δ : Type} {R : σ → τ → Prop} {P : α → β → Prop} {Q : γ → δ → Prop}

protected theorem pure {a : α} {b : β} (h : P a b) : Alike R P (pure a : Eval σ α) (pure b : Eval τ β) :=
  fun _ _ hst => ⟨.ok h, hst⟩

protected theorem throw (fault : Fault) : Alike R P (throw fault : Eval σ α) (throw fault : Eval τ β) :=
  fun _ _ hst => ⟨.error fault, hst⟩

protected theorem lift (r : Except Fault α) : Alike R Eq (Eval.lift r : Eval σ α) (Eval.lift r : Eval τ α) :=
  fun _ _ hst => ⟨.refl r, hst⟩

private theorem state_bind {σ α β : Type} (x : StateM σ α) (f : α → StateM σ β) (s : σ) :
    (x >>= f) s = f (x s).1 (x s).2 := rfl

protected theorem bind {x : Eval σ α} {y : Eval τ β} {f : α → Eval σ γ} {g : β → Eval τ δ}
    (h : Alike R P x y) (hf : ∀ a b, P a b → Alike R Q (f a) (g b)) : Alike R Q (x >>= f) (y >>= g) := by
  intro s t hst
  obtain ⟨hout, hstates⟩ := h s t hst
  rw [ExceptT.run_bind, ExceptT.run_bind, state_bind, state_bind]
  generalize (x.run s).1 = r, (y.run t).1 = r' at hout ⊢
  cases hout with
  | error fault => exact ⟨.error fault, hstates⟩
  | ok hab => exact hf _ _ hab _ _ hstates

protected theorem tryCatch {x : Eval σ α} {y : Eval τ β} {handle : Fault → Eval σ α}
    {handle' : Fault → Eval τ β} (h : Alike R P x y) (hhandle : ∀ fault, Alike R P (handle fault) (handle' fault)) :
    Alike R P (tryCatch x handle) (tryCatch y handle') := by
  intro s t hst
  obtain ⟨hout, hstates⟩ := h s t hst
  rw [ExceptT.run_tryCatch, ExceptT.run_tryCatch, state_bind, state_bind]
  generalize (x.run s).1 = r, (y.run t).1 = r' at hout ⊢
  cases hout with
  | error fault => exact hhandle fault _ _ hstates
  | ok hab => exact ⟨.ok hab, hstates⟩

/-- A part that gives equal values is followed by parts that are alike for each value. -/
theorem bind_eq {x : Eval σ α} {y : Eval τ α} {f : α → Eval σ γ} {g : α → Eval τ δ}
    (h : Alike R Eq x y) (hf : ∀ a, Alike R Q (f a) (g a)) : Alike R Q (x >>= f) (y >>= g) :=
  h.bind fun a _ hab => hab ▸ hf a

/-- So is a part that gives one value and something related beside it. -/
theorem bind_pair {ε : Type} {x : Eval σ (ε × α)} {y : Eval τ (ε × β)} {f : ε × α → Eval σ γ}
    {g : ε × β → Eval τ δ} (h : Alike R (fun r r' => r.1 = r'.1 ∧ P r.2 r'.2) x y)
    (hf : ∀ c a b, P a b → Alike R Q (f (c, a)) (g (c, b))) : Alike R Q (x >>= f) (y >>= g) := by
  refine h.bind fun r r' hr => ?_
  obtain ⟨c, a⟩ := r
  obtain ⟨c', b⟩ := r'
  obtain ⟨rfl, hab⟩ := hr
  exact hf c a b hab

/-- The values of two functions for the items of related lists. -/
theorem mapM {f : α → Eval σ γ} {g : β → Eval τ γ} {l : List α} {m : List β} (hl : List.Forall₂ P l m)
    (h : ∀ a b, P a b → Alike R Eq (f a) (g b)) : Alike R Eq (l.mapM f) (m.mapM g) := by
  induction hl with
  | nil => exact .pure rfl
  | cons hab _ ih =>
    rw [List.mapM_cons, List.mapM_cons]
    exact (h _ _ hab).bind_eq fun _ => ih.bind_eq fun _ => .pure rfl

theorem filterM {f : α → Eval σ Bool} {g : α → Eval τ Bool} (h : ∀ a, Alike R Eq (f a) (g a)) (l : List α) :
    Alike R Eq (l.filterM f) (l.filterM g) := by
  have key (kept : List α) : Alike R Eq (l.filterAuxM f kept) (l.filterAuxM g kept) := by
    induction l generalizing kept with
    | nil => exact .pure rfl
    | cons a l ih => exact (h a).bind_eq fun _ => ih _
  exact (key []).bind_eq fun _ => .pure rfl

end Eval.Alike

variable {σ τ : Type} {R : σ → τ → Prop}

/-- The scopes have the same values, and functions of the same names, which return alike. -/
structure Scope.Alike (R : σ → τ → Prop) (s : Scope σ) (t : Scope τ) : Prop where
  values : s.values = t.values
  functions : ∀ name, Option.Rel (fun f g => ∀ args, Eval.Alike R Eq (f args) (g args)) (s.functions name)
    (t.functions name)

/-- The arguments give the same value wherever the functions return alike. -/
structure Argument.Alike (R : σ → τ → Prop) (a : Argument σ) (b : Argument τ) : Prop where
  name : a.name? = b.name?
  value : ∀ s t, Scope.Alike R s t → Eval.Alike R Eq (a.value s) (b.value t)

/-- The functions are alike for every value. -/
def Eval.AlikeOn (R : σ → τ → Prop) (f : Value → Eval σ Value) (g : Value → Eval τ Value) : Prop :=
  ∀ v, Eval.Alike R Eq (f v) (g v)

namespace Scope.Alike
variable {s : Scope σ} {t : Scope τ} (h : s.Alike R t)
include h

theorem knows_eq (name : String) : s.knows name = t.knows name := by
  have hname := h.functions name
  rw [knows, knows]
  generalize s.functions name = f, t.functions name = g at hname ⊢
  cases hname with
  | none => rfl
  | some _ => rfl

protected theorem bind (name : String) (v : Value) : (s.bind name v).Alike R (t.bind name v) :=
  ⟨congrArg (·.insert name v) h.values, h.functions⟩

end Scope.Alike

section Arguments
variable {s : Scope σ} {t : Scope τ} (h : s.Alike R t) {this : Option Value} {args : List (Argument σ)}
  {args' : List (Argument τ)} (hargs : List.Forall₂ (Argument.Alike R) args args')
include h hargs

theorem Argument.alike_first : Eval.Alike R
    (fun r r' => r.1 = r'.1 ∧ List.Forall₂ (Argument.Alike R) r.2 r'.2) (first s args) (first t args') := by
  cases hargs with
  | nil => exact .throw _
  | cons ha hr => exact (ha.value s t h).bind_eq fun _ => .pure ⟨rfl, hr⟩

theorem Argument.alike_target : Eval.Alike R
    (fun r r' => r.1 = r'.1 ∧ List.Forall₂ (Argument.Alike R) r.2 r'.2) (target s this args)
    (target t this args') := by
  cases this with
  | some v => exact .pure ⟨rfl, hargs⟩
  | none => exact (alike_first h hargs).tryCatch fun _ => .throw _

theorem Argument.alike_comprehension (elements? : Value → Option (List Value)) : Eval.Alike R
    (fun r r' => r.1 = r'.1 ∧ Eval.AlikeOn R r.2 r'.2) (comprehension s this args elements?)
    (comprehension t this args' elements?) := by
  refine (alike_target h hargs).bind_pair fun v args args' hargs => ?_
  cases hargs with
  | nil => exact .throw _
  | @cons a a' r r' ha hr =>
    dsimp only
    rw [← ha.name]
    cases a.name? with
    | none => exact .throw _
    | some name =>
      cases hr with
      | nil => exact .throw _
      | cons hbody _ =>
        cases elements? v with
        | none => exact .throw _
        | some items => exact .pure ⟨rfl, fun w => hbody.value _ _ (h.bind name w)⟩

end Arguments

namespace Standard
variable {f : Value → Eval σ Value} {g : Value → Eval τ Value} (h : Eval.AlikeOn R f g)
include h

theorem alike_search (test : Value → Bool) (l : List Value) :
    Eval.Alike R Eq (search test f l) (search test g l) := by
  induction l with
  | nil => exact .pure rfl
  | cons v l ih =>
    refine (h v).bind_eq fun w => ?_
    split
    · exact .pure rfl
    · exact ih

theorem alike_searchOne (found : Bool) (l : List Value) :
    Eval.Alike R Eq (searchOne f found l) (searchOne g found l) := by
  induction l generalizing found with
  | nil => exact .pure rfl
  | cons v l ih =>
    refine (h v).bind_eq fun w => ?_
    split
    · split
      · exact .pure rfl
      · exact ih true
    · exact ih found

end Standard

section Standard
variable {s : Scope σ} {t : Scope τ} (h : s.Alike R t) {this : Option Value} {args : List (Argument σ)}
  {args' : List (Argument τ)} (hargs : List.Forall₂ (Argument.Alike R) args args')
include h hargs

private theorem alike_onTarget (f : Value → Except Fault Value) :
    Eval.Alike R Eq (Standard.onTarget s this args f) (Standard.onTarget t this args' f) :=
  (Argument.alike_target h hargs).bind_pair fun _ _ _ _ => .lift _

private theorem alike_onText (f : String → Except Fault Value) :
    Eval.Alike R Eq (Standard.onText s args f) (Standard.onText t args' f) :=
  (Argument.alike_first h hargs).bind_pair fun _ _ _ _ => (Eval.Alike.lift _).bind_eq fun _ => .lift _

private theorem alike_onTexts (f : String → String → Except Fault Bool) :
    Eval.Alike R Eq (Standard.onTexts s this args f) (Standard.onTexts t this args' f) := by
  refine (Argument.alike_target h hargs).bind_pair fun _ _ _ hr => ?_
  refine (Eval.Alike.lift _).bind_eq fun _ => ?_
  refine (Argument.alike_first h hr).bind_pair fun _ _ _ _ => ?_
  exact (Eval.Alike.lift _).bind_eq fun _ => (Eval.Alike.lift _).bind_eq fun _ => .pure rfl

/-- The functions of the language call others only through their arguments. -/
theorem Standard.alike_apply (f : Standard) :
    Eval.Alike R Eq (f.apply s this args) (f.apply t this args') := by
  have hitems (elements? : Value → Option (List Value)) : Eval.Alike R
      (fun r r' => r.1 = r'.1 ∧ Eval.AlikeOn R r.2 r'.2)
      (Argument.comprehension s this args elements?) (Argument.comprehension t this args' elements?) :=
    Argument.alike_comprehension h hargs elements?
  cases f with
  | contains =>
    refine (Argument.alike_target h hargs).bind_pair fun _ _ _ hr => ?_
    refine (Argument.alike_first h hr).bind_pair fun _ _ _ _ => ?_
    exact (Eval.Alike.lift _).bind_eq fun _ => .pure rfl
  | size => exact (Argument.alike_first h hargs).bind_pair fun _ _ _ _ => .lift _
  | has =>
    refine Eval.Alike.tryCatch ?_ fun fault => ?_
    · exact (Argument.alike_first h hargs).bind_pair fun _ _ _ _ => .pure rfl
    · cases fault <;> first | exact .pure rfl | exact .throw _
  | map =>
    refine (hitems _).bind_pair fun items body body' hbody => ?_
    refine (Eval.Alike.mapM (List.forall₂_same.mpr fun v _ => Eq.refl v) fun v v' hv => ?_).bind_eq
      fun _ => .pure rfl
    rw [← hv]
    exact hbody v
  | filter =>
    refine (hitems _).bind_pair fun items body body' hbody => ?_
    refine (Eval.Alike.filterM (fun v => ?_) items).bind_eq fun _ => .pure rfl
    exact (hbody v).bind_eq fun _ => .pure rfl
  | all =>
    exact (hitems _).bind_pair fun _ _ _ hbody => (alike_search hbody _ _).bind_eq fun _ => .pure rfl
  | «exists» =>
    exact (hitems _).bind_pair fun _ _ _ hbody => (alike_search hbody _ _).bind_eq fun _ => .pure rfl
  | existsOne =>
    exact (hitems _).bind_pair fun _ _ _ hbody => (alike_searchOne hbody _ _).bind_eq fun _ => .pure rfl
  | max => exact (Eval.Alike.mapM hargs fun _ _ ha => ha.value s t h).bind_eq fun _ => .lift _
  | startsWith => exact alike_onTexts h hargs _
  | endsWith => exact alike_onTexts h hargs _
  | «matches» => exact alike_onTexts h hargs _
  | string => exact alike_onTarget h hargs _
  | double => exact alike_onTarget h hargs _
  | int => exact alike_onTarget h hargs _
  | uint => exact alike_onTarget h hargs _
  | bytes => exact alike_onText h hargs _
  | duration => exact alike_onText h hargs _
  | timestamp => exact alike_onText h hargs _

end Standard

namespace Expr

theorem member_congr {s : Scope σ} {t : Scope τ} (h : s.Alike R t) (v : Value) (name : String) :
    member s v name = member t v name := by
  rw [member, member, h.knows_eq]

mutual
theorem alike_eval : (e : Expr) → (s : Scope σ) → (t : Scope τ) → s.Alike R t →
    Eval.Alike R Eq (e.eval s) (e.eval t)
  | .literal v, s, t, _ => by
    rw [eval, eval]
    exact .pure rfl
  | .ident name, s, t, h => by
    rw [eval, eval, h.values]
    cases t.values.get? name with
    | some v => exact .pure rfl
    | none => exact .throw _
  | .list items, s, t, h => by
    rw [eval, eval]
    exact (alike_evalItems items s t h).bind_eq fun _ => .pure rfl
  | .map entries, s, t, h => by
    rw [eval, eval]
    exact (alike_evalEntries entries [] s t h).bind_eq fun _ => .pure rfl
  | .select e name, s, t, h => by
    rw [eval, eval]
    refine (alike_eval e s t h).bind_eq fun v => ?_
    rw [member_congr h]
    exact .lift _
  | .index e i, s, t, h => by
    rw [eval, eval]
    exact (alike_eval e s t h).bind_eq fun _ => (alike_eval i s t h).bind_eq fun _ => .lift _
  | .construct e, s, t, h => by
    rw [eval, eval]
    exact (alike_eval e s t h).bind_eq fun _ => .throw _
  | .call target name args, s, t, h => by
    rw [eval, eval]
    have hname := h.functions name
    generalize s.functions name = f, t.functions name = g at hname ⊢
    cases hname with
    | some hfg =>
      refine (alike_evalTarget target s t h).bind_eq fun _ => ?_
      exact (alike_evalItems args s t h).bind_eq fun values => hfg values
    | none =>
      cases Standard.ofName? name with
      | none => exact .throw _
      | some f =>
        refine (alike_evalTarget target s t h).bind_eq fun this => ?_
        exact Standard.alike_apply h (alike_arguments args) f
  | .unary op e, s, t, h => by
    rw [eval, eval]
    exact (alike_eval e s t h).bind_eq fun _ => .lift _
  | .arithmetic op a b, s, t, h => by
    rw [eval, eval]
    exact (alike_eval a s t h).bind_eq fun _ => (alike_eval b s t h).bind_eq fun _ => .lift _
  | .relation op a b, s, t, h => by
    rw [eval, eval]
    refine (alike_eval a s t h).bind_eq fun _ => (alike_eval b s t h).bind_eq fun _ => ?_
    exact (Eval.Alike.lift _).bind_eq fun _ => .pure rfl
  | .and a b, s, t, h => by
    rw [eval, eval]
    exact (alike_eval a s t h).bind_eq fun _ => (alike_eval b s t h).bind_eq fun _ => .pure rfl
  | .or a b, s, t, h => by
    rw [eval, eval]
    refine (alike_eval a s t h).bind_eq fun v => ?_
    split
    · exact .pure rfl
    · exact alike_eval b s t h
  | .conditional test yes no, s, t, h => by
    rw [eval, eval]
    refine (alike_eval test s t h).bind_eq fun v => ?_
    split
    · exact alike_eval yes s t h
    · exact alike_eval no s t h

theorem alike_evalItems : (l : List Expr) → (s : Scope σ) → (t : Scope τ) → s.Alike R t →
    Eval.Alike R Eq (evalItems l s) (evalItems l t)
  | [], s, t, _ => by
    rw [evalItems, evalItems]
    exact .pure rfl
  | e :: l, s, t, h => by
    rw [evalItems, evalItems]
    refine (alike_eval e s t h).bind_eq fun _ => (alike_evalItems l s t h).bind_eq fun _ => ?_
    exact .pure rfl

theorem alike_evalEntries : (l : List (Expr × Expr)) → (entries : List (Key × Value)) →
    (s : Scope σ) → (t : Scope τ) → s.Alike R t →
    Eval.Alike R Eq (evalEntries l entries s) (evalEntries l entries t)
  | [], entries, s, t, _ => by
    rw [evalEntries, evalEntries]
    exact .pure rfl
  | (k, e) :: l, entries, s, t, h => by
    rw [evalEntries, evalEntries]
    refine (alike_eval k s t h).bind_eq fun v => ?_
    cases Key.ofValue? v with
    | none => exact .throw _
    | some k => exact (alike_eval e s t h).bind_eq fun _ => alike_evalEntries l _ s t h

theorem alike_evalTarget : (target : Option Expr) → (s : Scope σ) → (t : Scope τ) → s.Alike R t →
    Eval.Alike R Eq (evalTarget target s) (evalTarget target t)
  | none, s, t, _ => by
    rw [evalTarget, evalTarget]
    exact .pure rfl
  | some e, s, t, h => by
    rw [evalTarget, evalTarget]
    exact (alike_eval e s t h).bind_eq fun _ => .pure rfl

theorem alike_arguments : (l : List Expr) → List.Forall₂ (Argument.Alike R) (arguments l) (arguments l)
  | [] => by
    rw [arguments, arguments]
    exact .nil
  | e :: l => by
    rw [arguments, arguments]
    exact .cons ⟨rfl, fun s t h => alike_eval e s t h⟩ (alike_arguments l)
end

end Expr
end Condition

namespace CompiledCondition
open Condition (Scope Value Eval)
variable {σ τ : Type} {R : σ × ResultCache → τ × ResultCache → Prop} {resolve : Resolver σ}
  {resolve' : Resolver τ} {now : Int} {functions : FunctionTable}

private theorem alike_callable (name : String) {f : Function} {args : List Value}
    (h : Agree R (f.call resolve now (args.map Value.toJson)) (f.call resolve' now (args.map Value.toJson))) :
    Eval.Alike R Eq (callable resolve now name f args) (callable resolve' now name f args) := by
  intro s t hst
  obtain ⟨hresult, hstates⟩ := h s t hst
  rw [ExceptT.run, ExceptT.run, callable, callable]
  generalize f.call resolve now (args.map Value.toJson) s = x,
    f.call resolve' now (args.map Value.toJson) t = y at hresult hstates ⊢
  obtain ⟨result, s⟩ := x
  obtain ⟨result', t⟩ := y
  obtain rfl := hresult
  cases result with
  | ok v => exact ⟨.ok rfl, hstates⟩
  | error e => exact ⟨.error _, hstates⟩

/-- What the outcome of its program says about a condition. -/
def verdict (k : CompiledCondition) : Except Condition.Fault Value → Except Condition.Failure Bool
  | .error fault => .error (.faulty k.expression fault)
  | .ok (.bool b) => .ok b
  | .ok v => .error (.notBoolean k.expression v.kind)

theorem evaluate_eq (k : CompiledCondition) (attributes : Dict Json) (s : σ × ResultCache) :
    k.evaluate resolve now attributes s =
      (k.verdict (k.program.eval (scope resolve now k.functions attributes) s).1,
        (k.program.eval (scope resolve now k.functions attributes) s).2) := by
  rw [evaluate]
  generalize k.program.eval (scope resolve now k.functions attributes) s = answer
  obtain ⟨result, t⟩ := answer
  cases result with
  | error fault => rfl
  | ok v => cases v <;> rfl

/-- A condition calls custom functions only, apart from those that have no state. -/
theorem agree_evaluate (k : CompiledCondition) (attributes : Dict Json)
    (h : ∀ name d, k.functions.get? name = some (.custom d) → ∀ args,
      Agree R (d.call resolve now args) (d.call resolve' now args)) :
    Agree R (k.evaluate resolve now attributes) (k.evaluate resolve' now attributes) := by
  have hscope : (scope resolve now k.functions attributes).Alike R
      (scope resolve' now k.functions attributes) := by
    refine ⟨rfl, fun name => ?_⟩
    rw [scope, scope]
    dsimp only
    cases hf : k.functions.get? name with
    | none => exact .none
    | some f =>
      refine .some fun args => alike_callable name ?_
      cases f with
      | builtin b => exact fun s t hst => ⟨rfl, hst⟩
      | custom d => exact h name d hf _
  intro s t hst
  obtain ⟨hout, hstates⟩ := k.program.alike_eval _ _ hscope s t hst
  rw [evaluate_eq, evaluate_eq]
  exact ⟨congrArg k.verdict hout.eq, hstates⟩

end CompiledCondition
end Turnstile

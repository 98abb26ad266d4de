import Turnstile.Condition.Standard

/-! The value of an expression. The functions that are not part of the language may change a state;
both sides of `and` are evaluated. -/
namespace Turnstile.Condition

/-- A computation that may fail and that changes a state in any case. -/
abbrev Eval (σ : Type) := ExceptT Fault (StateM σ)

/-- A result that does not depend on the state. -/
def Eval.lift {σ α : Type} (r : Except Fault α) : Eval σ α := ExceptT.mk (pure r)

open Eval (lift)

/-- The names that an expression may use. -/
structure Scope (σ : Type) where
  values : Dict Value
  /-- The functions that are not part of the language; they hide those that are. -/
  functions : String → Option (List Value → Eval σ Value)

/-- An argument that has not been evaluated. -/
structure Argument (σ : Type) where
  /-- The name that the argument consists of, if it does. -/
  name? : Option String
  value : Scope σ → Eval σ Value

def Expr.name? : Expr → Option String
  | .ident name => some name
  | _ => none

namespace Scope
variable {σ : Type}

def knows (s : Scope σ) (name : String) : Bool :=
  (s.functions name).isSome || (Standard.ofName? name).isSome

def bind (s : Scope σ) (name : String) (v : Value) : Scope σ :=
  { s with values := s.values.insert name v }

end Scope

namespace Argument
variable {σ : Type}

/-- The value of the first argument, and the other ones. -/
def first (s : Scope σ) : List (Argument σ) → Eval σ (Value × List (Argument σ))
  | [] => throw .argumentCount
  | a :: r => return (← a.value s, r)

/-- The target of a call, which may also be given as its first argument. -/
def target (s : Scope σ) (this : Option Value) (args : List (Argument σ)) :
    Eval σ (Value × List (Argument σ)) :=
  match this with
  | some v => pure (v, args)
  | none => tryCatch (first s args) fun _ => throw .noTarget

def text (v : Value) : Eval σ String := lift v.asText

/-- The values of an expression for the elements of a list or map. -/
def comprehension (s : Scope σ) (this : Option Value) (args : List (Argument σ))
    (elements? : Value → Option (List Value)) :
    Eval σ (List Value × (Value → Eval σ Value)) := do
  let (v, args) ← target s this args
  match args with
  | [] => throw .argumentCount
  | a :: r =>
    match a.name?, r with
    | none, _ => throw .unexpectedType
    | some _, [] => throw .argumentCount
    | some name, body :: _ =>
      match elements? v with
      | some items => return (items, fun v => body.value (s.bind name v))
      | none => throw .unexpectedType

end Argument

namespace Standard
variable {σ : Type}

def isTrue : Value → Bool
  | .bool b => b
  | _ => false

def isFalse : Value → Bool
  | .bool b => !b
  | _ => false

def listItems? : Value → Option (List Value)
  | .list items => some items
  | _ => none

/-- Some value of the function passes the test; evaluation stops there. -/
def search (test : Value → Bool) (f : Value → Eval σ Value) : List Value → Eval σ Bool
  | [] => pure false
  | v :: r => do if test (← f v) then pure true else search test f r

/-- Exactly one value of the function is true; evaluation stops at the second one. -/
def searchOne (f : Value → Eval σ Value) : Bool → List Value → Eval σ Bool
  | found, [] => pure found
  | found, v :: r => do
    if isTrue (← f v) then
      if found then pure false else searchOne f true r
    else searchOne f found r

def onTarget (s : Scope σ) (this : Option Value) (args : List (Argument σ))
    (f : Value → Except Fault Value) : Eval σ Value := do
  let (v, _) ← Argument.target s this args
  lift (f v)

def onText (s : Scope σ) (args : List (Argument σ))
    (f : String → Except Fault Value) : Eval σ Value := do
  let (v, _) ← Argument.first s args
  lift (f (← Argument.text v))

def onTexts (s : Scope σ) (this : Option Value) (args : List (Argument σ))
    (f : String → String → Except Fault Bool) : Eval σ Value := do
  let (v, args) ← Argument.target s this args
  let a ← Argument.text v
  let (w, _) ← Argument.first s args
  let b ← Argument.text w
  return .bool (← lift (f a b))

def isStart (s t : String) : Bool := t.toList.isPrefixOf s.toList

def isEnd (s t : String) : Bool := t.toList.isSuffixOf s.toList

def apply (f : Standard) (s : Scope σ) (this : Option Value) (args : List (Argument σ)) :
    Eval σ Value := do
  match f with
  | contains =>
    let (v, args) ← Argument.target s this args
    let (w, _) ← Argument.first s args
    return .bool (← lift (v.contains w))
  | size =>
    let (v, _) ← Argument.first s args
    lift v.size
  | has =>
    tryCatch (do let _ ← Argument.first s args; return .bool true) fun fault =>
      match fault with
      | .noSuchKey _ => return .bool false
      | fault => throw fault
  | map =>
    let (items, body) ← Argument.comprehension s this args listItems?
    return .list (← items.mapM body)
  | filter =>
    let (items, body) ← Argument.comprehension s this args listItems?
    return .list (← items.filterM fun v => return isTrue (← body v))
  | all =>
    let (items, body) ← Argument.comprehension s this args Value.elements?
    return .bool !(← search isFalse body items)
  | .exists =>
    let (items, body) ← Argument.comprehension s this args Value.elements?
    return .bool (← search isTrue body items)
  | existsOne =>
    let (items, body) ← Argument.comprehension s this args Value.elements?
    return .bool (← searchOne body false items)
  | max =>
    let values : List Value ← args.mapM (·.value s)
    lift (Value.greatest (match values with
      | [.list items] => items
      | values => values))
  | startsWith => onTexts s this args fun s t => .ok (isStart s t)
  | endsWith => onTexts s this args fun s t => .ok (isEnd s t)
  | .matches => onTexts s this args Value.matchesText
  | string => onTarget s this args Value.toText
  | double => onTarget s this args Value.toDouble
  | int => onTarget s this args Value.toInt
  | uint => onTarget s this args Value.toUint
  | bytes => onText s args fun t => .ok (.bytes (Text.Utf8.encode t))
  | duration => onText s args Value.toDuration
  | timestamp => onText s args Value.toTimestamp

end Standard

namespace Expr
variable {σ : Type}

/-- The entry of a map is its own member; a function may be named as a member of anything. -/
def member (s : Scope σ) (v : Value) (name : String) : Except Fault Value :=
  match v.member? name with
  | some w => .ok w
  | none => if s.knows name then .ok (.function name v) else .error (.noSuchKey name)

mutual
def eval : Expr → Scope σ → Eval σ Value
  | .literal v, _ => pure v
  | .ident name, s =>
    match s.values.get? name with
    | some v => pure v
    | none => throw (.undeclared name)
  | .list items, s => do return .list (← evalItems items s)
  | .map entries, s => do return .map (← evalEntries entries [] s)
  | .select e name, s => do lift (member s (← eval e s) name)
  | .index e i, s => do
    let v ← eval e s
    let i ← eval i s
    lift (v.index i)
  | .construct e, s => do
    let _ ← eval e s
    throw .unsupportedFields
  | .call target name args, s =>
    match s.functions name, Standard.ofName? name with
    | some f, _ => do
      let _ ← evalTarget target s
      f (← evalItems args s)
    | none, some f => do
      let this ← evalTarget target s
      f.apply s this (arguments args)
    | none, none => throw (.undeclared name)
  | .unary op e, s => do
    let v ← eval e s
    lift (v.unary op)
  | .arithmetic op a b, s => do
    let v ← eval a s
    let w ← eval b s
    lift (v.arithmetic op w)
  | .relation op a b, s => do
    let v ← eval a s
    let w ← eval b s
    return .bool (← lift (v.relation op w))
  | .and a b, s => do
    let v ← eval a s
    let w ← eval b s
    return .bool (v.truth && w.truth)
  | .or a b, s => do
    let v ← eval a s
    if v.truth then pure v else eval b s
  | .conditional test yes no, s => do
    let v ← eval test s
    if v.truth then eval yes s else eval no s

def evalItems : List Expr → Scope σ → Eval σ (List Value)
  | [], _ => pure []
  | e :: r, s => do
    let v ← eval e s
    return v :: (← evalItems r s)

def evalEntries : List (Expr × Expr) → List (Key × Value) → Scope σ → Eval σ (List (Key × Value))
  | [], entries, _ => pure entries
  | (k, e) :: r, entries, s => do
    match Key.ofValue? (← eval k s) with
    | none => throw .unsupportedKey
    | some k =>
      let v ← eval e s
      evalEntries r (Value.insert k v entries) s

def evalTarget : Option Expr → Scope σ → Eval σ (Option Value)
  | none, _ => pure none
  | some e, s => do return some (← eval e s)

def arguments : List Expr → List (Argument σ)
  | [] => []
  | e :: r => ⟨e.name?, eval e⟩ :: arguments r
end

end Expr
end Turnstile.Condition

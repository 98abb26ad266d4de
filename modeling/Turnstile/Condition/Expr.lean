import Turnstile.Condition.Value

/-! Expressions. -/
namespace Turnstile.Condition

inductive Relation where
  | lt
  | le
  | gt
  | ge
  | eq
  | ne
  | member
deriving DecidableEq

inductive Arithmetic where
  | add
  | sub
  | mul
  | div
  | rem
deriving DecidableEq

inductive Unary where
  | not
  | notNot
  | minus
  | minusMinus
deriving DecidableEq

inductive Expr where
  | literal (v : Value)
  | ident (name : String)
  | list (items : List Expr)
  | map (entries : List (Expr × Expr))
  | select (e : Expr) (name : String)
  | index (e i : Expr)
  /-- A type applied to fields, which no value allows. -/
  | construct (e : Expr)
  /-- A function, possibly called as a member of a target. -/
  | call (target : Option Expr) (name : String) (args : List Expr)
  | unary (op : Unary) (e : Expr)
  | arithmetic (op : Arithmetic) (a b : Expr)
  | relation (op : Relation) (a b : Expr)
  | and (a b : Expr)
  | or (a b : Expr)
  | conditional (test yes no : Expr)
deriving Inhabited

end Turnstile.Condition

import Turnstile.Condition.Expr
import Turnstile.Condition.Token

/-! Expressions from words. Operators of one level group to the left; relations do not chain. -/
namespace Turnstile.Condition

namespace Expr

private def arithmeticOp? (level : Nat) (t : Token) : Option Arithmetic :=
  match level, t with
  | 0, .symbol "+" => some .add
  | 0, .symbol "-" => some .sub
  | 1, .symbol "*" => some .mul
  | 1, .symbol "/" => some .div
  | 1, .symbol "%" => some .rem
  | _, _ => none

private def relationOp? : Token → Option Relation
  | .symbol "<" => some .lt
  | .symbol "<=" => some .le
  | .symbol ">" => some .gt
  | .symbol ">=" => some .ge
  | .symbol "==" => some .eq
  | .symbol "!=" => some .ne
  | .symbol "in" => some .member
  | _ => none

private def unaryOp? : Token → Option Unary
  | .symbol "!" => some .not
  | .symbol "!!" => some .notNot
  | .symbol "-" => some .minus
  | .symbol "--" => some .minusMinus
  | _ => none

private def expect (text : String) : List Token → Option (List Token)
  | .symbol s :: r => if s = text then some r else none
  | _ => none

/-- Every call passes on less fuel; a tree over `n` words needs at most sixteen calls a word. -/
private def fuelFor (ts : List Token) : Nat := 16 * (ts.length + 1)

mutual
private def expression : Nat → List Token → Option (Expr × List Token)
  | 0, _ => none
  | fuel + 1, ts => do
    let (test, r) ← disjunction fuel ts
    match r with
    | .symbol "?" :: r =>
      let (yes, r) ← disjunction fuel r
      let r ← expect ":" r
      let (no, r) ← expression fuel r
      some (.conditional test yes no, r)
    | r => some (test, r)

private def disjunction : Nat → List Token → Option (Expr × List Token)
  | 0, _ => none
  | fuel + 1, ts => do
    let (a, r) ← conjunction fuel ts
    moreDisjuncts fuel a r

private def moreDisjuncts : Nat → Expr → List Token → Option (Expr × List Token)
  | 0, _, _ => none
  | fuel + 1, a, .symbol "||" :: r => do
    let (b, r) ← conjunction fuel r
    moreDisjuncts fuel (.or a b) r
  | _, a, r => some (a, r)

private def conjunction : Nat → List Token → Option (Expr × List Token)
  | 0, _ => none
  | fuel + 1, ts => do
    let (a, r) ← comparison fuel ts
    moreConjuncts fuel a r

private def moreConjuncts : Nat → Expr → List Token → Option (Expr × List Token)
  | 0, _, _ => none
  | fuel + 1, a, .symbol "&&" :: r => do
    let (b, r) ← comparison fuel r
    moreConjuncts fuel (.and a b) r
  | _, a, r => some (a, r)

private def comparison : Nat → List Token → Option (Expr × List Token)
  | 0, _ => none
  | fuel + 1, ts => do
    let (a, r) ← operation fuel 0 ts
    match r with
    | t :: r' =>
      match relationOp? t with
      | some op =>
        let (b, r) ← operation fuel 0 r'
        some (.relation op a b, r)
      | none => some (a, r)
    | [] => some (a, [])

/-- Sums are level 0, products level 1, signed terms level 2. -/
private def operation : Nat → Nat → List Token → Option (Expr × List Token)
  | 0, _, _ => none
  | fuel + 1, level, ts =>
    if level = 2 then signed fuel ts
    else do
      let (a, r) ← operation fuel (level + 1) ts
      moreOperands fuel level a r

private def moreOperands : Nat → Nat → Expr → List Token → Option (Expr × List Token)
  | 0, _, _, _ => none
  | fuel + 1, level, a, t :: r =>
    match arithmeticOp? level t with
    | some op => do
      let (b, r) ← operation fuel (level + 1) r
      moreOperands fuel level (.arithmetic op a b) r
    | none => some (a, t :: r)
  | _, _, a, [] => some (a, [])

private def signed : Nat → List Token → Option (Expr × List Token)
  | 0, _ => none
  | fuel + 1, ts =>
    match ts with
    | t :: r =>
      match unaryOp? t with
      | some op => do
        let (e, r) ← chain fuel r
        some (.unary op e, r)
      | none => chain fuel ts
    | [] => none

private def chain : Nat → List Token → Option (Expr × List Token)
  | 0, _ => none
  | fuel + 1, ts => do
    let (e, r) ← primary fuel ts
    moreMembers fuel e r

private def moreMembers : Nat → Expr → List Token → Option (Expr × List Token)
  | 0, _, _ => none
  | fuel + 1, e, .symbol "." :: .ident name :: .symbol "(" :: r => do
    let (args, r) ← sequence fuel ")" r
    moreMembers fuel (.call (some e) name args) r
  | fuel + 1, e, .symbol "." :: .ident name :: r => moreMembers fuel (.select e name) r
  | fuel + 1, e, .symbol "[" :: r => do
    let (i, r) ← expression fuel r
    let r ← expect "]" r
    moreMembers fuel (.index e i) r
  | fuel + 1, e, .symbol "\x7b" :: r => do
    let r ← fields fuel r
    moreMembers fuel (.construct e) r
  | _, _, .symbol "." :: _ => none
  | _, e, r => some (e, r)

private def primary : Nat → List Token → Option (Expr × List Token)
  | 0, _ => none
  | fuel + 1, .symbol "." :: .ident name :: r => named fuel name r
  | fuel + 1, .ident name :: r => named fuel name r
  | _, .literal v :: r => some (.literal v, r)
  | fuel + 1, .symbol "(" :: r => do
    let (e, r) ← expression fuel r
    let r ← expect ")" r
    some (e, r)
  | fuel + 1, .symbol "[" :: r => do
    let (items, r) ← sequence fuel "]" r
    some (.list items, r)
  | fuel + 1, .symbol "\x7b" :: r => do
    let (entries, r) ← pairs fuel r
    some (.map entries, r)
  | _, _ => none

private def named : Nat → String → List Token → Option (Expr × List Token)
  | 0, _, _ => none
  | fuel + 1, name, .symbol "(" :: r => do
    let (args, r) ← sequence fuel ")" r
    some (.call none name args, r)
  | _, name, r => some (.ident name, r)

/-- Expressions up to a closing bracket; a comma may follow the last one. -/
private def sequence : Nat → String → List Token → Option (List Expr × List Token)
  | 0, _, _ => none
  | fuel + 1, close, ts =>
    match expect close ts with
    | some r => some ([], r)
    | none => do
      let (e, r) ← expression fuel ts
      match r with
      | .symbol "," :: r =>
        let (es, r) ← sequence fuel close r
        some (e :: es, r)
      | r =>
        let r ← expect close r
        some ([e], r)

private def pairs : Nat → List Token → Option (List (Expr × Expr) × List Token)
  | 0, _ => none
  | fuel + 1, ts =>
    match expect "\x7d" ts with
    | some r => some ([], r)
    | none => do
      let (k, r) ← expression fuel ts
      let r ← expect ":" r
      let (v, r) ← expression fuel r
      match r with
      | .symbol "," :: r =>
        let (es, r) ← pairs fuel r
        some ((k, v) :: es, r)
      | r =>
        let r ← expect "\x7d" r
        some ([(k, v)], r)

private def fields : Nat → List Token → Option (List Token)
  | 0, _ => none
  | fuel + 1, .ident _ :: .symbol ":" :: r => do
    let (_, r) ← expression fuel r
    match r with
    | .symbol "," :: r => fields fuel r
    | r => expect "\x7d" r
  | _, ts => expect "\x7d" ts
end

/-- The whole text must be one expression. -/
def ofText? (s : String) : Option Expr := do
  let ts ← Token.ofText? s
  match expression (fuelFor ts) ts with
  | some (e, []) => some e
  | _ => none

end Expr
end Turnstile.Condition

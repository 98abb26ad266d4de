import Turnstile.Condition.Value
import Turnstile.Unicode.Property

/-! The words of a condition. At each place the longest word is taken. -/
namespace Turnstile.Condition

inductive Token where
  | ident (name : String)
  | literal (v : Value)
  /-- An operator, a bracket or the word `in`. -/
  | symbol (text : String)
deriving Inhabited

namespace Token

private def symbols : List String :=
  ["!", "!!", "!=", "%", "&&", "(", ")", "*", "+", ",", "-", "--", ".", "/", ":", "<", "<=", "==",
    ">", ">=", "?", "[", "]", "\x7b", "||", "\x7d"]

private def isLetter (c : Char) : Bool := c.isAlpha || c = '_'

private def longestSymbol? (cs : List Char) : Option String :=
  (symbols.filter fun s => s.toList.isPrefixOf cs).foldl
    (fun best s => if best.all fun b => b.length < s.length then some s else best) none

private def wordToken (w : String) : Token :=
  match w with
  | "true" => literal (.bool true)
  | "false" => literal (.bool false)
  | "null" => literal .null
  | "in" => symbol "in"
  | w => ident w

/-- The length of a number in front of a text, and whether it is a floating-point one. A sign
belongs to the number; a plus sign only to a floating-point one. -/
private def numberLength (cs : List Char) : Option (Nat × Bool) :=
  let (sign, r) := match cs with
    | '-' :: r => (some '-', r)
    | '+' :: r => (some '+', r)
    | r => (none, r)
  let signLength := if sign.isSome then 1 else 0
  let (whole, r) := takeDigits r
  let exponentLength (r : List Char) : Nat :=
    match r with
    | c :: r =>
      if c = 'e' || c = 'E' then
        let (n, r) := match r with
          | '-' :: r => (2, r)
          | '+' :: r => (2, r)
          | r => (1, r)
        let (digits, _) := takeDigits r
        if digits.isEmpty then 0 else n + digits.length
      else 0
    | [] => 0
  let (places, rest) := match r with
    | '.' :: r => takeDigits r
    | _ => ([], r)
  if !places.isEmpty then
    some (signLength + whole.length + 1 + places.length + exponentLength rest, true)
  else if whole.isEmpty then none
  else
    let n := exponentLength r
    if 0 < n then some (signLength + whole.length + n, true)
    else if sign = some '+' then none
    else some (signLength + whole.length, false)

/-- A whole number that is out of range is no word. -/
private def numberToken? (text : List Char) (isFloat : Bool) : Option Token :=
  if isFloat then some (literal (.float ((Binary64.ofText? (.ofList text)).getD .zero)))
  else do
    let n ← intOfText? (.ofList text)
    if Int64.minValue.toInt ≤ n ∧ n ≤ Int64.maxValue.toInt then some (literal (.int (.ofInt n)))
    else none

/-- The greatest length of a quoted text. A backslash may stand for itself or go with the next
character, whichever makes the text longer: `plain` and `escaped` say which readings are alive. -/
private def closing (quote : Char) (triple : Bool) :
    Bool → Bool → Nat → Option Nat → List Char → Option Nat
  | _, _, _, best, [] => best
  | plain, escaped, n, best, c :: r =>
    let ends := plain && c = quote &&
      (!triple || (r.take 2 = [quote, quote]))
    let best := if ends then some (n + if triple then 3 else 1) else best
    let excluded :=
      if triple then c = quote || c = '\x7b' || c = '3' || c = '\x7d' else c = quote || c = '\n'
    let plain' := (plain && !excluded) || (escaped && c ≠ '\n')
    let escaped' := plain && c = '\\'
    if plain' || escaped' then closing quote triple plain' escaped' (n + 1) best r else best

/-- The length of a text in quotes, with the quotes. -/
private def quotedLength (cs : List Char) : Option Nat :=
  match cs with
  | q :: r =>
    if q = '\'' || q = '"' then
      let single := closing q false true false 1 none r
      let triple :=
        if r.take 2 = [q, q] then closing q true true false 3 none (r.drop 2) else none
      match single, triple with
      | some m, some n => some (max m n)
      | some m, none => some m
      | none, t => t
    else none
  | [] => none

private def hexValue? (c : Char) : Option Nat :=
  if c.isDigit then some (c.toNat - 48)
  else if 'a' ≤ c && c ≤ 'f' then some (c.toNat - 87)
  else if 'A' ≤ c && c ≤ 'F' then some (c.toNat - 55)
  else none

private def octalValue? (c : Char) : Option Nat :=
  if '0' ≤ c && c ≤ '7' then some (c.toNat - 48) else none

private def numeral? (base width : Nat) (digit : Char → Option Nat) (cs : List Char) : Option Nat :=
  if (cs.take width).length = width then
    (cs.take width).foldlM (fun n c => (digit c).map (base * n + ·)) 0
  else none

private def charOf? (n : Nat) : Option Char := if n.isValidChar then some (Char.ofNat n) else none

private def namedEscape? (c : Char) : Option Char :=
  match c with
  | 'a' => some '\x07'
  | 'b' => some '\x08'
  | 'v' => some '\x0b'
  | 'f' => some '\x0c'
  | 'n' => some '\n'
  | 'r' => some '\r'
  | 't' => some '\t'
  | '\\' => some '\\'
  | '?' => some '?'
  | '\x60' => some '\x60'
  | _ => none

/-- The text that a quoted text stands for. Inside one kind of quotes an escaped quote of the other
kind keeps its backslash. -/
private def unquote (raw : Bool) : Nat → Option Char → List Char → Option (List Char)
  | 0, _, _ => none
  | _, _, [] => some []
  | fuel + 1, inside, '\\' :: c :: r =>
    match inside with
    | none => none
    | some q =>
      if c = '\'' || c = '"' then
        let rest := unquote raw fuel inside r
        rest.map fun t => if c = q then c :: t else '\\' :: c :: t
      else if raw then (unquote raw fuel inside r).map fun t => '\\' :: c :: t
      else
        let numbered (value : Option Nat) (used : Nat) : Option (List Char) := do
          let d ← charOf? (← value)
          (unquote raw fuel inside (r.drop used)).map (d :: ·)
        match c with
        | 'x' => numbered (numeral? 16 2 hexValue? r) 2
        | 'u' => numbered (numeral? 16 4 hexValue? r) 4
        | 'U' => numbered (numeral? 16 8 hexValue? r) 8
        | c =>
          if '0' ≤ c && c ≤ '3' then numbered (numeral? 8 3 octalValue? (c :: r)) 2
          else do
            let d ← namedEscape? c
            (unquote raw fuel inside r).map (d :: ·)
  | fuel + 1, inside, c :: r =>
    if c = '\'' || c = '"' then
      match inside with
      | none => unquote raw fuel (some c) r
      | some q =>
        if c = q then unquote raw fuel none r else (unquote raw fuel inside r).map (c :: ·)
    else (unquote raw fuel inside r).map (c :: ·)

/-- The bytes between quotes. -/
private def unquoteBytes : Nat → List Char → Option (List UInt8)
  | 0, _ => none
  | _, [] => some []
  | fuel + 1, '\\' :: 'x' :: r => do
    let n ← numeral? 16 2 hexValue? r
    (unquoteBytes fuel (r.drop 2)).map (.ofNat n :: ·)
  | fuel + 1, '\\' :: c :: r =>
    if '0' ≤ c && c ≤ '3' then do
      let n ← numeral? 8 3 octalValue? (c :: r)
      (unquoteBytes fuel (r.drop 2)).map (.ofNat n :: ·)
    else none
  | _, ['\\'] => none
  | fuel + 1, c :: r => (unquoteBytes fuel r).map (Text.Utf8.encode (.singleton c) ++ ·)

private def textToken? (raw : Bool) (text : List Char) : Option Token :=
  (unquote raw (text.length + 1) none text).map fun t => literal (.string (.ofList t))

private def bytesToken? (text : List Char) : Option Token :=
  let q := text.take 1
  let triple := 6 ≤ text.length && text.take 3 = q ++ q ++ q && !(text.drop 3 |>.isEmpty)
  let n := if triple then 3 else 1
  let content := (text.drop n).take (text.length - 2 * n)
  (unquoteBytes (content.length + 1) content).map fun b => literal (.bytes b)

/-- The token in front of a text that does not begin with a blank, and its length. -/
private def next? (cs : List Char) : Option (Token × Nat) :=
  let quoted (skip : Nat) (make : List Char → Option Token) : Option (Option Token × Nat) :=
    (quotedLength (cs.drop skip)).map fun n => (make ((cs.drop skip).take n), skip + n)
  let quotedToken :=
    match cs with
    | c :: _ =>
      if c = 'r' || c = 'R' then quoted 1 (textToken? true)
      else if c = 'b' || c = 'B' then quoted 1 bytesToken?
      else quoted 0 (textToken? false)
    | [] => none
  match quotedToken with
  | some (t, n) => t.map (·, n)
  | none =>
    match cs with
    | c :: _ =>
      if isLetter c then
        let w := cs.takeWhile fun c => isLetter c || c.isDigit
        some (wordToken (.ofList w), w.length)
      else
        match numberLength cs with
        | some (n, isFloat) => (numberToken? (cs.take n) isFloat).map (·, n)
        | none => (longestSymbol? cs).map fun s => (symbol s, s.length)
    | [] => none

private def scan : Nat → List Char → Option (List Token)
  | 0, _ => none
  | _, [] => some []
  | fuel + 1, '/' :: '/' :: r => scan fuel (r.dropWhile fun c => c ≠ '\n' && c ≠ '\r')
  | fuel + 1, c :: r =>
    if Unicode.isWhiteSpace c then scan fuel r
    else do
      let (t, n) ← next? (c :: r)
      (scan fuel (r.drop (n - 1))).map (t :: ·)

/-- All words of a text; blanks and comments are left out. -/
def ofText? (s : String) : Option (List Token) := scan (s.length + 1) s.toList

end Token
end Turnstile.Condition

import Turnstile.Json.Basic

/-! Text read as far as it goes. Where the text breaks off or breaks a rule, the document holds the
fault in the place where it was met, so that a reader of the document meets faults and mismatches in
the order of the text. -/
namespace Turnstile

inductive TextFault where
  | malformed
  | truncated
deriving DecidableEq, Repr

/-- A fault as met by a reader of the value and by a reader that passes over it. -/
structure Break where
  onRead : TextFault
  onSkip : TextFault
deriving DecidableEq

inductive Doc where
  | null
  | bool (b : Bool)
  | number (n : Number)
  | string (s : String)
  /-- A malformed scalar that may still be passed over. -/
  | unreadable
  | array (items : List Doc) (tail : Option Break)
  /-- A member without a readable name has no name here. -/
  | object (members : List (Option String × Doc)) (tail : Option Break)
  | broken (b : Break)
deriving Inhabited

namespace Doc

private def both (f : TextFault) : Break := ⟨f, f⟩

private def isBlank (c : Char) : Bool := c = ' ' || c = '\n' || c = '\t' || c = '\r'

def skipBlank (cs : List Char) : List Char := cs.dropWhile isBlank

private def hexDigit? (c : Char) : Option Nat :=
  if c.isDigit then some (c.toNat - 48)
  else if 'a' ≤ c && c ≤ 'f' then some (c.toNat - 87)
  else if 'A' ≤ c && c ≤ 'F' then some (c.toNat - 55)
  else none

/-- Four hexadecimal digits. -/
private def hex4 (cs : List Char) : Except TextFault (Nat × List Char) :=
  if (cs.take 4).foldl (fun n c => n + c.utf8Size) 0 < 4 then .error .truncated
  else match (cs.take 4).foldlM (fun n c => (hexDigit? c).map (16 * n + ·)) 0 with
    | some n => if (cs.take 4).length = 4 then .ok (n, cs.drop 4) else .error .malformed
    | none => .error .malformed

private def simpleEscape? (c : Char) : Option Char :=
  match c with
  | '"' => some '"'
  | '\\' => some '\\'
  | '/' => some '/'
  | 'b' => some '\x08'
  | 'f' => some '\x0c'
  | 'n' => some '\n'
  | 'r' => some '\r'
  | 't' => some '\t'
  | _ => none

private def isLead (n : Nat) : Bool := 0xd800 ≤ n && n ≤ 0xdbff
private def isTrail (n : Nat) : Bool := 0xdc00 ≤ n && n ≤ 0xdfff

/-- The text after an opening quote. A surrogate escape without its partner makes the string
unreadable, but it may still be passed over. -/
private def stringBody :
    Nat → Bool → List Char → List Char → Except Break (Option String × List Char)
  | 0, _, _, _ => .error (both .malformed)
  | fuel + 1, bad, acc, cs =>
    match cs with
    | [] => .error ⟨if bad then .malformed else .truncated, .truncated⟩
    | '"' :: r => .ok (if bad then none else some (.ofList acc.reverse), r)
    | ['\\'] => .error ⟨if bad then .malformed else .truncated, .truncated⟩
    | '\\' :: 'u' :: r =>
      match hex4 r with
      | .error f => .error ⟨if bad then .malformed else f, f⟩
      | .ok (n, r) =>
        if isTrail n then stringBody fuel true acc r
        else if isLead n then
          match r with
          | [] | ['\\'] => .error ⟨if bad then .malformed else .truncated, .truncated⟩
          | '\\' :: 'u' :: s =>
            match hex4 s with
            | .error f => .error ⟨if bad then .malformed else f, f⟩
            | .ok (m, s) =>
              if isTrail m then
                let c := Char.ofNat (0x10000 + (n - 0xd800) * 0x400 + (m - 0xdc00))
                stringBody fuel bad (c :: acc) s
              else stringBody fuel true acc s
          | r => stringBody fuel true acc r
        else stringBody fuel bad (Char.ofNat n :: acc) r
    | '\\' :: c :: r =>
      match simpleEscape? c with
      | some c => stringBody fuel bad (c :: acc) r
      | none => .error (both .malformed)
    | c :: r =>
      if c.toNat < 32 then .error (both .malformed) else stringBody fuel bad (c :: acc) r

/-- The rest of a number after its digits: at most twenty digits count, and the decimal is scaled in
one multiplication or division by a power of ten. -/
private def scaled? (negative : Bool) (significand : Nat) (exponent : Int) : Option Number :=
  let rec go : Nat → Binary64 → Int → Option Binary64
    | 0, x, _ => some x
    | fuel + 1, x, e =>
      if e.natAbs ≤ 308 then
        let power := Binary64.ofDecimal 1 e.natAbs
        if 0 ≤ e then
          let y := x.mul power
          if y.isFinite then some y else none
        else some (x.div power)
      else if x.isZero then some x
      else if 0 ≤ e then none
      else go fuel (x.div (.ofDecimal 1 308)) (e + 308)
  match go 64 (.ofNat significand) (max exponent (-10000)) with
  | some x => (FiniteFloat.of? (if negative then x.neg else x)).map .float
  | none => none

private def maxSignificand : Nat := 0x10000000000000000

/-- Takes digits while the significand fits; later digits are counted or dropped. -/
private def takeSignificand (start : Nat) (ds : List Char) : Nat × List Char :=
  match ds with
  | [] => (start, [])
  | d :: r =>
    let next := 10 * start + digitValue d
    if next < maxSignificand then takeSignificand next r else (start, d :: r)

private def ofNumber? (n : Option Number) : Doc := n.elim .unreadable .number

/-- Minus zero and integers below the range are floating-point numbers. -/
private def integer (negative : Bool) (n : Nat) : Option Number :=
  if negative then
    if n = 0 then (FiniteFloat.of? .negZero).map .float
    else if n ≤ 0x8000000000000000 then (WholeNumber.of? (-n)).map .whole
    else (FiniteFloat.of? (Binary64.ofNat n).neg).map .float
  else (WholeNumber.of? n).map .whole

/-- A text that breaks off is a fault of another kind only to a reader of the value. -/
private def badDigits (rest : List Char) : Doc × List Char :=
  (.broken ⟨if rest.isEmpty then .truncated else .malformed, .malformed⟩, [])

/-- A number from the text after its exponent mark, if there is one. -/
private def finish (negative : Bool) (significand : Nat) (start : Int) (cs : List Char) :
    Doc × List Char :=
  match cs with
  | [] => (ofNumber? (scaled? negative significand start), [])
  | c :: r =>
    if c ≠ 'e' && c ≠ 'E' then (ofNumber? (scaled? negative significand start), c :: r)
    else
      let (down, r) := match r with
        | '+' :: r => (false, r)
        | '-' :: r => (true, r)
        | r => (false, r)
      let (digits, rest) := takeDigits r
      let e := natOfDigits digits
      if digits.isEmpty then badDigits r
      else if e < 0x80000000 then
        (ofNumber? (scaled? negative significand (if down then start - e else start + e)), rest)
      else if significand ≠ 0 && !down then (.unreadable, rest)
      else (ofNumber? (scaled? negative 0 0), rest)

/-- A number after its sign. -/
private def numberBody (negative : Bool) (cs : List Char) : Doc × List Char :=
  let (digits, r) := takeDigits cs
  match digits with
  | [] => badDigits cs
  | '0' :: _ :: _ => (.broken (both .malformed), [])
  | digits =>
    let (whole, dropped) := takeSignificand 0 digits
    match r with
    | '.' :: r =>
      let (places, rest) := takeDigits r
      if places.isEmpty then badDigits r
      else
        let (significand, unused) := takeSignificand whole places
        finish negative significand (dropped.length + unused.length - places.length) rest
    | r =>
      if dropped.isEmpty && !(r.head?.any fun c => c = 'e' || c = 'E') then
        (ofNumber? (integer negative whole), r)
      else finish negative whole dropped.length r

private def literal (d : Doc) (expected cs : List Char) : Doc × List Char :=
  match expected, cs with
  | [], r => (d, r)
  | _ :: _, [] => (.broken (both .truncated), [])
  | e :: es, c :: r => if e = c then literal d es r else (.broken (both .malformed), [])

mutual
private def value : Nat → List Char → Doc × List Char
  | 0, _ => (.broken (both .malformed), [])
  | fuel + 1, cs =>
    match skipBlank cs with
    | [] => (.broken (both .truncated), [])
    | '"' :: r =>
      match stringBody (r.length + 1) false [] r with
      | .ok (some s, r) => (.string s, r)
      | .ok (none, r) => (.unreadable, r)
      | .error b => (.broken b, [])
    | '[' :: r =>
      match skipBlank r with
      | [] => (.array [] (some (both .truncated)), [])
      | ']' :: r => (.array [] none, r)
      | r =>
        let (items, tail, r) := items fuel r
        (.array items tail, r)
    | '\x7b' :: r =>
      match skipBlank r with
      | [] => (.object [] (some (both .truncated)), [])
      | '\x7d' :: r => (.object [] none, r)
      | r =>
        let (members, tail, r) := members fuel r
        (.object members tail, r)
    | 't' :: r => literal (.bool true) ['r', 'u', 'e'] r
    | 'f' :: r => literal (.bool false) ['a', 'l', 's', 'e'] r
    | 'n' :: r => literal .null ['u', 'l', 'l'] r
    | '-' :: r => numberBody true r
    | c :: r => if c.isDigit then numberBody false (c :: r) else (.broken (both .malformed), [])

private def items : Nat → List Char → List Doc × Option Break × List Char
  | 0, _ => ([], some (both .malformed), [])
  | fuel + 1, cs =>
    let (d, r) := value fuel cs
    match skipBlank r with
    | [] => ([d], some (both .truncated), [])
    | ']' :: r => ([d], none, r)
    | ',' :: r =>
      let (ds, tail, r) := items fuel r
      (d :: ds, tail, r)
    | _ => ([d], some (both .malformed), [])

private def members : Nat → List Char → List (Option String × Doc) × Option Break × List Char
  | 0, _ => ([], some (both .malformed), [])
  | fuel + 1, cs =>
    match skipBlank cs with
    | [] => ([], some (both .truncated), [])
    | '"' :: r =>
      match stringBody (r.length + 1) false [] r with
      | .error b => ([], some b, [])
      | .ok (name, r) =>
        match skipBlank r with
        | [] => ([(name, .broken (both .truncated))], none, [])
        | ':' :: r =>
          let (d, r) := value fuel r
          match skipBlank r with
          | [] => ([(name, d)], some (both .truncated), [])
          | '\x7d' :: r => ([(name, d)], none, r)
          | ',' :: r =>
            let (ms, tail, r) := members fuel r
            ((name, d) :: ms, tail, r)
          | _ => ([(name, d)], some (both .malformed), [])
        | _ => ([(name, .broken (both .malformed))], none, [])
    | _ => ([], some (both .malformed), [])
end

/-- The first value of a text, and what follows it. -/
def read (cs : List Char) : Doc × List Char := value (2 * cs.length + 2) cs

mutual
/-- The first fault that a reader meets that passes over the value. -/
def skip : Doc → Option TextFault
  | .broken b => some b.onSkip
  | .array items tail => (skipItems items).or (tail.map Break.onSkip)
  | .object members tail => (skipMembers members).or (tail.map Break.onSkip)
  | _ => none

def skipItems : List Doc → Option TextFault
  | [] => none
  | d :: r => (skip d).or (skipItems r)

def skipMembers : List (Option String × Doc) → Option TextFault
  | [] => none
  | (_, d) :: r => (skip d).or (skipMembers r)
end

mutual
/-- A value as a document without faults. -/
def ofJson : Json → Doc
  | .null => .null
  | .bool b => .bool b
  | .number n => .number n
  | .string s => .string s
  | .array items => .array (ofItems items) none
  | .object members => .object (ofMembers members) none

def ofItems : List Json → List Doc
  | [] => []
  | v :: r => ofJson v :: ofItems r

def ofMembers : List (String × Json) → List (Option String × Doc)
  | [] => []
  | (n, v) :: r => (some n, ofJson v) :: ofMembers r
end

end Doc
end Turnstile

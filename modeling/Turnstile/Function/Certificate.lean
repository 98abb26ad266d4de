/-! Texts with certificates, as far as their outer shape goes. Nothing is verified. -/
namespace Turnstile.Certificate

private def base64Value? (c : Char) : Option Nat :=
  if c.isUpper then some (c.toNat - 65)
  else if c.isLower then some (c.toNat - 71)
  else if c.isDigit then some (c.toNat + 4)
  else if c = '+' then some 62
  else if c = '/' then some 63
  else none

private def unbase64 : List Char → Option (List Nat)
  | [] => some []
  | [a, b, '=', '='] => do
    let n := (← base64Value? a) * 64 + (← base64Value? b)
    some [n / 16]
  | [a, b, c, '='] => do
    let n := ((← base64Value? a) * 64 + (← base64Value? b)) * 64 + (← base64Value? c)
    some [n / 1024, n / 4 % 256]
  | a :: b :: c :: d :: r => do
    let n := (((← base64Value? a) * 64 + (← base64Value? b)) * 64 + (← base64Value? c)) * 64 +
      (← base64Value? d)
    some (n / 65536 :: n / 256 % 256 :: n % 256 :: (← unbase64 r))
  | _ => none

/-- The first element of a binary form: its tag, its content and what follows it. -/
private def element? : List Nat → Option (Nat × List Nat × List Nat)
  | tag :: n :: r =>
    let width := if n < 128 then 0 else n - 128
    let length := if n < 128 then n else (r.take width).foldl (fun n b => 256 * n + b) 0
    let content := r.drop width
    if width + length ≤ r.length then some (tag, content.take length, content.drop length) else none
  | _ => none

/-- A sequence of exactly three elements: what is certified, an algorithm and a signature. -/
private def isCertificate (bytes : List Nat) : Bool :=
  let tags := do
    let (outer, content, after) ← element? bytes
    let (statement, _, r) ← element? content
    let (algorithm, _, r) ← element? r
    let (signature, _, r) ← element? r
    some ([outer, statement, algorithm, signature], after ++ r)
  tags = some ([0x30, 0x30, 0x30, 0x03], [])

private def beginMark : String := "-----BEGIN "

/-- The name of the section that a line opens. -/
private def sectionName? (line : String) : Option String :=
  let cs := (line.toList.drop beginMark.length).reverse.dropWhile Char.isWhitespace
  let name := cs.dropWhile (· = '-')
  if name.length + 5 = cs.length then some (.ofList name.reverse) else none

/-- Every section that is opened is closed, and its certificate can be read; sections of other names
and other lines do not matter. -/
private def readable : Option String → List Char → List String → Bool
  | name, _, [] => name.isNone
  | name, body, l :: r =>
    if l.startsWith beginMark then
      match sectionName? l with
      | some name => readable (some name) body r
      | none => false
    else
      match name with
      | none => readable none body r
      | some name =>
        if l.startsWith s!"-----END {name}-----" then
          (name ≠ "CERTIFICATE" || (unbase64 body).any isCertificate) && readable none [] r
        else readable (some name) (body ++ l.toList.filter fun c => !c.isWhitespace) r

def isUsable (pem : String) : Bool := readable none [] (pem.splitOn "\n")

end Turnstile.Certificate

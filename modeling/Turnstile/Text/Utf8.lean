/-! Text as bytes. -/
namespace Turnstile.Text.Utf8

def encode (s : String) : List UInt8 := s.toUTF8.toList

/-- The lead byte of a sequence: how many bytes follow, its payload, and the range of the second
byte, which keeps out overlong forms and surrogates. -/
private def lead? (b : Nat) : Option (Nat × Nat × Nat × Nat) :=
  if 0xc2 ≤ b && b ≤ 0xdf then some (1, b - 0xc0, 0x80, 0xbf)
  else if b = 0xe0 then some (2, 0, 0xa0, 0xbf)
  else if b = 0xed then some (2, 0xd, 0x80, 0x9f)
  else if 0xe1 ≤ b && b ≤ 0xef then some (2, b - 0xe0, 0x80, 0xbf)
  else if b = 0xf0 then some (3, 0, 0x90, 0xbf)
  else if 0xf1 ≤ b && b ≤ 0xf3 then some (3, b - 0xf0, 0x80, 0xbf)
  else if b = 0xf4 then some (3, 4, 0x80, 0x8f)
  else none

/-- A sequence under way: bytes still missing, payload so far, range of the next byte. -/
private structure Pending where
  missing : Nat
  payload : Nat
  low : Nat
  high : Nat

/-- Each longest start of a sequence that is not continued becomes one replacement character. -/
private def decodeFrom : Option Pending → List UInt8 → List Char
  | none, [] => []
  | some _, [] => ['\ufffd']
  | some p, b :: r =>
    if p.low ≤ b.toNat && b.toNat ≤ p.high then
      let payload := p.payload * 64 + (b.toNat - 0x80)
      if p.missing = 1 then Char.ofNat payload :: decodeFrom none r
      else decodeFrom (some ⟨p.missing - 1, payload, 0x80, 0xbf⟩) r
    else '\ufffd' :: start b r
  | none, b :: r => start b r
where
  start (b : UInt8) (r : List UInt8) : List Char :=
    if b.toNat < 0x80 then Char.ofNat b.toNat :: decodeFrom none r
    else match lead? b.toNat with
      | some (missing, payload, low, high) => decodeFrom (some ⟨missing, payload, low, high⟩) r
      | none => '\ufffd' :: decodeFrom none r

def decode (bytes : List UInt8) : String := .ofList (decodeFrom none bytes)

end Turnstile.Text.Utf8

import Turnstile.Number.Shortest

/-! How numbers are written and read as text. -/
namespace Turnstile

/-- The choices that fix how a decimal is laid out. -/
structure NumberStyle where
  /-- Positional notation is used for leading exponents in this range; `none` means always. -/
  positional : Option (Int × Int)
  /-- A whole number ends in `.0`. -/
  pointZero : Bool
  /-- A positive exponent carries a plus sign. -/
  plusSign : Bool
  notANumber : String
  infinity : String

namespace NumberStyle

/-- The style of data interchange. -/
def interchange : NumberStyle := ⟨some (-5, 15), true, true, "null", "null"⟩

/-- Every digit is written out. -/
def plain : NumberStyle := ⟨none, false, false, "NaN", "inf"⟩

/-- The style of diagnostic text. -/
def diagnostic : NumberStyle := ⟨some (-5, 15), true, false, "NaN", "inf"⟩

end NumberStyle

namespace Decimal

def zeros (n : Nat) : List Char := List.replicate n '0'

/-- Positional digits. -/
def positional (d : Decimal) (pointZero : Bool) : List Char :=
  let t := d.text
  let point : Int := t.length + d.exponent
  if 0 ≤ d.exponent then t ++ zeros d.exponent.toNat ++ (if pointZero then ".0".toList else [])
  else if 0 < point then t.take point.toNat ++ '.' :: t.drop point.toNat
  else "0.".toList ++ zeros (-point).toNat ++ t

/-- One digit before the point and an exponent. -/
def scientific (d : Decimal) (plusSign : Bool) : List Char :=
  let t := d.text
  let e := d.leadingExponent
  let mantissa := match t with
    | [] => []
    | [c] => [c]
    | c :: r => c :: '.' :: r
  let sign := if e < 0 then ['-'] else if plusSign then ['+'] else []
  mantissa ++ 'e' :: sign ++ Nat.toDigits 10 e.natAbs

def render (style : NumberStyle) (d : Decimal) : List Char :=
  match style.positional with
  | none => d.positional style.pointZero
  | some (low, high) =>
    if d.digits = 0 || (low ≤ d.leadingExponent && d.leadingExponent ≤ high) then
      d.positional style.pointZero
    else d.scientific style.plusSign

end Decimal

namespace Binary64

def render (style : NumberStyle) (x : Binary64) : String :=
  if x.isNaN then style.notANumber
  else
    let sign := if x.isNegative then "-" else ""
    if x.isFinite then sign ++ .ofList (x.shortest.render style) else sign ++ style.infinity

end Binary64

/-- Decimal digits in front of a text. -/
def takeDigits (cs : List Char) : List Char × List Char := cs.span Char.isDigit

def digitValue (c : Char) : Nat := c.toNat - '0'.toNat

/-- The number that a list of digits denotes. -/
def natOfDigits (cs : List Char) : Nat := cs.foldl (fun n c => 10 * n + digitValue c) 0

/-- A sign, digits with an optional point, and an optional exponent; also `inf`, `infinity` and
`nan` in any case. The whole text must be used. -/
def Binary64.ofText? (s : String) : Option Binary64 :=
  let (negative, cs) := match s.toList with
    | '-' :: r => (true, r)
    | '+' :: r => (false, r)
    | r => (false, r)
  let signed (x : Binary64) : Binary64 := if negative then x.neg else x
  let word := cs.map Char.toLower
  if word = "inf".toList || word = "infinity".toList then some (signed .infinity)
  else if word = "nan".toList then some (signed (.ofFloat (0.0 / 0.0)))
  else
    let (whole, r) := takeDigits cs
    let (frac, r) := match r with
      | '.' :: r => takeDigits r
      | r => ([], r)
    if whole.isEmpty && frac.isEmpty then none
    else
      let build (e : Int) : Binary64 :=
        signed (.ofDecimal (natOfDigits (whole ++ frac)) (e - frac.length))
      match r with
      | [] => some (build 0)
      | c :: r =>
        if c = 'e' || c = 'E' then
          let (negativeExp, r) := match r with
            | '-' :: r => (true, r)
            | '+' :: r => (false, r)
            | r => (false, r)
          let (ds, r) := takeDigits r
          if ds.isEmpty || !r.isEmpty then none
          else some (build (if negativeExp then -(natOfDigits ds : Int) else natOfDigits ds))
        else none

/-- A decimal integer with an optional sign; the whole text must be used. -/
def intOfText? (s : String) : Option Int :=
  let go (cs : List Char) : Option Nat :=
    if cs.isEmpty || cs.any (!·.isDigit) then none else some (natOfDigits cs)
  match s.toList with
  | '-' :: r => (go r).map fun n => -(n : Int)
  | '+' :: r => (go r).map fun n => (n : Int)
  | r => (go r).map fun n => (n : Int)

end Turnstile

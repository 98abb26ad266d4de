import Turnstile.Calendar
import Turnstile.Number.Notation
import Turnstile.Toml.Quoted

/-! Numbers, dates and times. -/
namespace Turnstile.Toml.Scan

/-- Digits with single underscores between them. -/
def digits (p : Char → Bool) : Scan (List Char) := do
  let rec go : Nat → Scan (List Char)
    | 0 => failure
    | fuel + 1 => do
      match ← peek with
      | some '_' => do
        discard next
        return (← one p) :: (← go fuel)
      | some c => if p c then return (← next) :: (← go fuel) else return []
      | none => return []
  return (← one p) :: (← go (← budget))

/-- Whether a minus sign was read. -/
def sign : Scan Bool := do
  match ← optional (one fun c => c = '+' || c = '-') with
  | some c => return c = '-'
  | none => return false

/-- No zeros in front. -/
def decimalDigits : Scan (List Char) := do
  match ← optional (char '0') with
  | some () => return ['0']
  | none => digits Char.isDigit

def inRange (i : Int) : Scan Node :=
  if -0x8000000000000000 ≤ i && i < 0x8000000000000000 then return .integer i else failure

/-- An integer in another base than ten. -/
def based (mark : String) (base : Nat) : Scan Node := do
  literal mark
  let ds ← digits fun c => (hexValue? c).any (· < base)
  inRange (ds.foldl (fun n c => base * n + (hexValue? c).getD 0) 0 : Nat)

def decimal : Scan Node := do
  let negative ← sign
  let whole ← decimalDigits
  let places ← optional (do char '.'; digits Char.isDigit)
  let exponent ← optional do
    discard (one fun c => c = 'e' || c = 'E')
    let negative ← sign
    let n := natOfDigits (← digits Char.isDigit)
    return if negative then -(n : Int) else n
  if places.isNone && exponent.isNone then
    let n := natOfDigits whole
    inRange (if negative then -(n : Int) else n)
  else
    let places := places.getD []
    let x := Binary64.ofDecimal (natOfDigits (whole ++ places))
      (exponent.getD 0 - places.length)
    if negative then return .float x.neg
    else if x.isFinite then return .float x
    else failure

/-- `inf` and `nan`. -/
def special : Scan Node := do
  let negative ← sign
  let signed (x : Binary64) : Binary64 := if negative then x.neg else x
  (do literal "inf"; return .float (signed .infinity)) <|>
    (do literal "nan"; return .float (signed (.ofFloat (0.0 / 0.0))))

/-- A number of fixed width in a range. -/
def fixed (width low high : Nat) : Scan Nat := do
  let ds ← (List.range width).mapM fun _ => one Char.isDigit
  let n := natOfDigits ds
  if low ≤ n && n ≤ high then return n else failure

def date : Scan Unit := do
  let year ← fixed 4 0 9999
  char '-'
  let month ← fixed 2 1 12
  char '-'
  discard (fixed 2 1 (Date.daysInMonth year month))

def time : Scan Unit := do
  discard (fixed 2 0 23)
  char ':'
  discard (fixed 2 0 59)
  char ':'
  discard (fixed 2 0 60)
  discard (optional (do char '.'; takeSome Char.isDigit))

def offset : Scan Unit :=
  discard (one fun c => c = 'Z' || c = 'z') <|> do
    discard (one fun c => c = '+' || c = '-')
    discard (fixed 2 0 23)
    char ':'
    discard (fixed 2 0 59)

/-- A date, a time, or a date with a time and perhaps its distance from Greenwich. -/
def moment : Scan Node := do
  (do
    date
    discard (optional (do
      discard (one fun c => c = 'T' || c = 't' || c = ' ')
      time
      discard (optional offset)))) <|> time
  return .moment

def word (s : String) (n : Node) : Scan Node := do
  literal s
  return n

/-- Everything but arrays and tables. -/
def scalar : Scan Node := do
  match ← peek with
  | some '"' | some '\'' => return .string (← string)
  | some 't' => word "true" (.bool true)
  | some 'f' => word "false" (.bool false)
  | _ =>
    moment <|> based "0x" 16 <|> based "0o" 8 <|> based "0b" 2 <|> decimal <|> special

end Turnstile.Toml.Scan

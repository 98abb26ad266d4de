import Turnstile.Regex.Basic

/-! Matching by sets of positions. Bit `i` of a number stands for the position before the `i`-th
character; an expression maps the set of positions where a match may start to the set of those
where it may end. -/
namespace Turnstile.Regex

/-- The positions whose next character satisfies a test. -/
def charMask (p : Char → Bool) : List Char → Nat
  | [] => 0
  | c :: r => 2 * charMask p r + (if p c then 1 else 0)

/-- The positions where an assertion holds. -/
def assertMask (a : Assertion) (before : Option Char) : List Char → Nat
  | [] => if a.holds before none then 1 else 0
  | c :: r => 2 * assertMask a (some c) r + (if a.holds before (some c) then 1 else 0)

/-- Applies a step a number of times; a set that the step keeps is final. -/
def iterate (step : Nat → Nat) : Nat → Nat → Nat
  | 0, s => s
  | n + 1, s =>
    let s' := step s
    if s' = s then s else iterate step n s'

/-- Adds what up to a number of steps reach. -/
def closure (step : Nat → Nat) : Nat → Nat → Nat
  | 0, s => s
  | n + 1, s =>
    let s' := s ||| step s
    if s' = s then s else closure step n s'

def ends (t : List Char) : Regex → Nat → Nat
  | .empty, s => s
  | .chars k, s => 2 * (s &&& charMask k.mem t)
  | .assert a, s => s &&& assertMask a none t
  | .cat a b, s => ends t b (ends t a s)
  | .alt a b, s => ends t a s ||| ends t b s
  | .times r low high, s =>
    let more := match high with
      | none => t.length + 1
      | some high => high - low
    closure (ends t r) more (iterate (ends t r) low s)

/-- A match may start anywhere. -/
def matchesText (r : Regex) (t : List Char) : Bool :=
  ends t r (Nat.pow 2 (t.length + 1) - 1) ≠ 0

def isMatch (r : Regex) (s : String) : Bool := r.matchesText s.toList

end Turnstile.Regex

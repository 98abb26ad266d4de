/-! Properties of characters, stored as run lengths. A run is a length in base 36 (left out when it
is one) followed by a symbol of fixed width. -/
namespace Turnstile.Unicode

private def digit? (c : Char) : Option Nat :=
  if '0' ≤ c && c ≤ '9' then some (c.toNat - 48)
  else if 'a' ≤ c && c ≤ 'z' then some (c.toNat - 87)
  else none

private structure Reading where
  start : Nat := 0
  length : Option Nat := none
  symbol : List Char := []
  runs : Array (Nat × String) := #[]

private def Reading.step (width : Nat) (s : Reading) (c : Char) : Reading :=
  match digit? c with
  | some d => { s with length := some (36 * s.length.getD 0 + d) }
  | none =>
    let symbol := c :: s.symbol
    if symbol.length < width then { s with symbol := symbol }
    else
      { start := s.start + s.length.getD 1
        runs := s.runs.push (s.start, .ofList symbol.reverse) }

/-- The first code point and the symbol of every run, in order. -/
def readRuns (width : Nat) (text : List String) : Array (Nat × String) :=
  ((text.flatMap String.toList).foldl (Reading.step width) {}).runs

/-- The last run that starts at or before a code point, by bisection. -/
def lookup {α : Type} (runs : Array (Nat × α)) (code : Nat) : Option α :=
  go 32 0 runs.size
where
  go : Nat → Nat → Nat → Option α
    | 0, _, _ => none
    | fuel + 1, low, high =>
      if high ≤ low + 1 then (runs[low]?).map (·.2)
      else
        let middle := (low + high) / 2
        match runs[middle]? with
        | none => none
        | some r => if r.1 ≤ code then go fuel middle high else go fuel low middle

end Turnstile.Unicode

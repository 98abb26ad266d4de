import Turnstile.Regex.CharClass

/-! Regular expressions and the spans of a text that they match. -/
namespace Turnstile

/-- Zero-width tests of the characters on both sides of a position. -/
inductive Regex.Assertion where
  | textStart | textEnd | lineStart | lineEnd | crlfLineStart | crlfLineEnd
  | wordEdge (ascii : Bool) | notWordEdge (ascii : Bool)
  | wordStart (ascii : Bool) | wordEnd (ascii : Bool)
  | wordStartHalf (ascii : Bool) | wordEndHalf (ascii : Bool)
deriving DecidableEq, Repr

inductive Regex where
  | empty
  | chars (set : Regex.CharClass)
  | assert (a : Regex.Assertion)
  | cat (a b : Regex)
  | alt (a b : Regex)
  /-- At least `low` and, where there is a limit, at most `high` times. -/
  | times (r : Regex) (low : Nat) (high : Option Nat)
deriving DecidableEq, Repr

namespace Regex

def isWord (ascii : Bool) (c : Option Char) : Bool :=
  c.any (if ascii then CharClass.asciiWord.mem else CharClass.word.mem)

/-- Whether an assertion holds between two characters, either of which may be missing at an end of
the text. -/
def Assertion.holds (a : Assertion) (before after : Option Char) : Bool :=
  match a with
  | textStart => before.isNone
  | textEnd => after.isNone
  | lineStart => before.isNone || before = some '\n'
  | lineEnd => after.isNone || after = some '\n'
  | crlfLineStart =>
    before.isNone || before = some '\n' || (before = some '\r' && after ≠ some '\n')
  | crlfLineEnd =>
    after.isNone || after = some '\r' || (after = some '\n' && before ≠ some '\r')
  | wordEdge k => isWord k before != isWord k after
  | notWordEdge k => isWord k before == isWord k after
  | wordStart k => !isWord k before && isWord k after
  | wordEnd k => isWord k before && !isWord k after
  | wordStartHalf k => !isWord k before
  | wordEndHalf k => !isWord k after

/-- `Spans t r i j`: the expression matches the text from position `i` to position `j`. -/
inductive Spans (t : List Char) : Regex → Nat → Nat → Prop where
  | empty {i : Nat} : i ≤ t.length → Spans t .empty i i
  | chars {k : CharClass} {i : Nat} {c : Char} :
      t[i]? = some c → k.mem c = true → Spans t (.chars k) i (i + 1)
  | assert {a : Assertion} {i : Nat} :
      i ≤ t.length → a.holds (if i = 0 then none else t[i - 1]?) t[i]? = true →
      Spans t (.assert a) i i
  | cat {a b : Regex} {i j k : Nat} : Spans t a i j → Spans t b j k → Spans t (.cat a b) i k
  | altLeft {a b : Regex} {i j : Nat} : Spans t a i j → Spans t (.alt a b) i j
  | altRight {a b : Regex} {i j : Nat} : Spans t b i j → Spans t (.alt a b) i j
  | done {r : Regex} {high : Option Nat} {i : Nat} : i ≤ t.length → Spans t (.times r 0 high) i i
  | again {r : Regex} {low : Nat} {high : Option Nat} {i j k : Nat} :
      high ≠ some 0 → Spans t r i j → Spans t (.times r (low - 1) (high.map (· - 1))) j k →
      Spans t (.times r low high) i k

/-- The expression matches somewhere in the text. -/
def Occurs (r : Regex) (t : List Char) : Prop := ∃ i j, Spans t r i j

end Regex
end Turnstile

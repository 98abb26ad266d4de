import Turnstile.Toml.Basic

/-! Reading from the front of a text. -/
namespace Turnstile.Toml

abbrev Scan := StateT (List Char) Option

namespace Scan

def peek : Scan (Option Char) := fun cs => some (cs.head?, cs)

def next : Scan Char
  | [] => none
  | c :: r => some (c, r)

/-- One character of a kind. -/
def one (p : Char → Bool) : Scan Char := do
  let c ← next
  if p c then return c else failure

def char (c : Char) : Scan Unit := discard (one (· = c))

/-- Exactly this text. -/
def literal (s : String) : Scan Unit := s.toList.forM char

def takeWhile (p : Char → Bool) : Scan (List Char) := fun cs => some (cs.span p)

/-- At least one character. -/
def takeSome (p : Char → Bool) : Scan (List Char) := do
  let cs ← takeWhile p
  if cs.isEmpty then failure else return cs

/-- The steps that the text could still give rise to. -/
def budget : Scan Nat := fun cs => some (cs.length + 1, cs)

def atEnd : Scan Unit
  | [] => some ((), [])
  | _ => none

def isBlank (c : Char) : Bool := c = ' ' || c = '\t'

/-- Everything but control characters; tabs are allowed. -/
def isText (c : Char) : Bool := c = '\t' || ' ' ≤ c && c ≠ '\x7f'

def blank : Scan Unit := discard (takeWhile isBlank)

def newline : Scan Unit := literal "\n" <|> literal "\r\n"

def comment : Scan Unit := do
  char '#'
  discard (takeWhile isText)

/-- The rest of a line after its content. -/
def lineEnd : Scan Unit := do
  blank
  discard (optional comment)
  newline <|> atEnd

/-- Blanks, comments and ends of lines. -/
def gap : Scan Unit := do
  let rec go : Nat → Scan Unit
    | 0 => failure
    | fuel + 1 => do
      blank
      match ← peek with
      | some '#' => comment; newline; go fuel
      | some '\n' | some '\r' => newline; go fuel
      | _ => pure ()
  go (← budget)

end Scan
end Turnstile.Toml

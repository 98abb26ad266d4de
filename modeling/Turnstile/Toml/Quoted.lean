import Turnstile.Toml.Scan

/-! Strings and keys. -/
namespace Turnstile.Toml.Scan

def hexValue? (c : Char) : Option Nat :=
  if c.isDigit then some (c.toNat - 48)
  else if 'a' ≤ c && c ≤ 'f' then some (c.toNat - 87)
  else if 'A' ≤ c && c ≤ 'F' then some (c.toNat - 55)
  else none

/-- A character by its number. -/
def numbered (digits : Nat) : Scan Char := do
  let n ← (List.range digits).foldlM (fun n _ => do
    match hexValue? (← next) with
    | some d => return 16 * n + d
    | none => failure) 0
  if n.isValidChar then return Char.ofNat n else failure

/-- What follows a backslash. -/
def escape : Scan Char := do
  match ← next with
  | 'b' => return '\x08'
  | 'f' => return '\x0c'
  | 'n' => return '\n'
  | 'r' => return '\r'
  | 't' => return '\t'
  | '"' => return '"'
  | '\\' => return '\\'
  | 'u' => numbered 4
  | 'U' => numbered 8
  | _ => failure

/-- A backslash at the end of a line joins it to the next text. -/
def continuation : Scan Unit := do
  char '\\'
  blank
  newline
  let rec go : Nat → Scan Unit
    | 0 => failure
    | fuel + 1 => do
      blank
      match ← optional newline with
      | some () => go fuel
      | none => pure ()
  go (← budget)

/-- A character inside a string of one line. -/
def inside (quote : Char) : Scan Char := do
  match ← next with
  | '\\' => if quote = '"' then escape else return '\\'
  | c => if isText c then return c else failure

/-- The text up to the closing quote. -/
def untilQuote (quote : Char) : Nat → Scan (List Char)
  | 0 => failure
  | fuel + 1 => do
    match ← optional (char quote) with
    | some () => return []
    | none => return (← inside quote) :: (← untilQuote quote fuel)

def oneLine : Scan String := do
  let quote ← one fun c => c = '"' || c = '\''
  return .ofList (← untilQuote quote (← budget))

/-- Three quotes, of which two more may stand in front. -/
def closing (quote : Char) : Scan (List Char) := do
  char quote; char quote; char quote
  let quotes ← takeWhile (· = quote)
  let extra := quotes.take 2
  modify ((quotes.drop 2) ++ ·)
  return extra

/-- The text up to three closing quotes. -/
def untilQuotes (quote : Char) : Nat → Scan (List Char)
  | 0 => failure
  | fuel + 1 => do
    match ← optional (closing quote) with
    | some extra => return extra
    | none =>
      match ← optional newline with
      | some () => return '\n' :: (← untilQuotes quote fuel)
      | none =>
        let joined ← if quote = '"' then optional continuation else pure none
        match joined with
        | some () => untilQuotes quote fuel
        | none => return (← inside quote) :: (← untilQuotes quote fuel)

def manyLines : Scan String := do
  let quote ← one fun c => c = '"' || c = '\''
  char quote; char quote
  discard (optional newline)
  return .ofList (← untilQuotes quote (← budget))

def string : Scan String := manyLines <|> oneLine

def isBare (c : Char) : Bool := c.isAlphanum || c = '_' || c = '-'

def simpleKey : Scan String := do
  match ← peek with
  | some '"' | some '\'' => oneLine
  | _ => return .ofList (← takeSome isBare)

/-- Names with dots between them; fewer than eighty. -/
def key : Scan (List String) := do
  let rec go : Nat → Scan (List String)
    | 0 => failure
    | fuel + 1 => do
      blank
      let name ← simpleKey
      blank
      match ← optional (char '.') with
      | some () => return name :: (← go fuel)
      | none => return [name]
  go 79

end Turnstile.Toml.Scan

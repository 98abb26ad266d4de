import Turnstile.Regex.Basic
import Turnstile.Number.Notation

/-! Escape sequences of expressions. -/
namespace Turnstile.Regex

structure Flags where
  ignoreCase : Bool := false
  multiLine : Bool := false
  dotAll : Bool := false
  crlf : Bool := false
  unicode : Bool := true
  verbose : Bool := false
deriving DecidableEq, Inhabited

/-- What a backslash and the text after it stand for. -/
inductive Escaped where
  /-- `isByte` marks two hexadecimal digits, which name a byte where Unicode is off. -/
  | char (c : Char) (isByte : Bool)
  | set (k : CharClass)
  | assert (a : Assertion)

def isMeta (c : Char) : Bool :=
  c ∈ ['\\', '.', '+', '*', '?', '(', ')', '|', '[', ']', '\x7b', '\x7d', '^', '$', '#', '&', '-',
    '~']

/-- Punctuation may be escaped even where that changes nothing; letters and digits may not. -/
def mayEscape (c : Char) : Bool :=
  isMeta c || (c.toNat < 128 && !c.isAlphanum && c ≠ '<' && c ≠ '>')

def hexValue? (c : Char) : Option Nat :=
  if c.isDigit then some (c.toNat - 48)
  else if 'a' ≤ c && c ≤ 'f' then some (c.toNat - 87)
  else if 'A' ≤ c && c ≤ 'F' then some (c.toNat - 55)
  else none

def hexNumber? (cs : List Char) : Option Nat :=
  if cs.isEmpty then none else cs.foldlM (fun n c => (hexValue? c).map (16 * n + ·)) 0

def charOf? (n : Nat) : Option Char := if n.isValidChar then some (Char.ofNat n) else none

/-- Digits between braces, or exactly `count` digits. -/
def hexChar? (count : Nat) : List Char → Option (Char × List Char)
  | '\x7b' :: r =>
    let ds := r.takeWhile (· ≠ '\x7d')
    match r.drop ds.length with
    | '\x7d' :: rest => (hexNumber? ds).bind charOf? |>.map (·, rest)
    | _ => none
  | r =>
    let ds := r.take count
    if ds.length < count then none else (hexNumber? ds).bind charOf? |>.map (·, r.drop count)

def splitAt? (sep : List Char) : List Char → Option (List Char × List Char)
  | [] => none
  | c :: r =>
    if sep.isPrefixOf (c :: r) then some ([], (c :: r).drop sep.length)
    else (splitAt? sep r).map fun p => (c :: p.1, p.2)

/-- The property after `\p`: one letter, or a name or a name and a value between braces. -/
def property? : List Char → Option (CharClass × List Char)
  | [] => none
  | '\x7b' :: r =>
    let name := r.takeWhile (· ≠ '\x7d')
    match r.drop name.length with
    | '\x7d' :: rest =>
      let k := match splitAt? ['!', '='] name with
        | some (p, v) => (CharClass.namedValue? (.ofList p) (.ofList v)).map CharClass.compl
        | none => match splitAt? [':'] name with
          | some (p, v) => CharClass.namedValue? (.ofList p) (.ofList v)
          | none => match splitAt? ['='] name with
            | some (p, v) => CharClass.namedValue? (.ofList p) (.ofList v)
            | none => CharClass.named? (.ofList name)
      k.map (·, rest)
    | _ => none
  | c :: r => if c = '\\' then none else (CharClass.named? (String.singleton c)).map (·, r)

def foldCase (f : Flags) (k : CharClass) : CharClass :=
  if f.ignoreCase then (if f.unicode then .anyCase k else .anyAsciiCase k) else k

/-- Where Unicode is off a complement would contain half characters, so it is refused. -/
def negated? (f : Flags) (negate : Bool) (k : CharClass) : Option CharClass :=
  if negate then (if f.unicode then some (.compl k) else none) else some k

/-- The class that a backslash and one letter stand for. -/
def perl (f : Flags) (c : Char) : CharClass :=
  match c.toLower with
  | 'd' => if f.unicode then .digit else .asciiDigit
  | 's' => if f.unicode then .space else .asciiSpace
  | _ => if f.unicode then .word else .asciiWord

/-- A brace after `\b` starts a name, or a count if what follows could not be a name. -/
def wordEdge? (f : Flags) : List Char → Option (Assertion × List Char)
  | '\x7b' :: c :: r =>
    if c.isAlpha || c = '-' then
      let name := (c :: r).takeWhile fun d => d.isAlpha || d = '-'
      let rest := (c :: r).drop name.length
      match rest with
      | '\x7d' :: rest =>
        match String.ofList name with
        | "start" => some (.wordStart !f.unicode, rest)
        | "end" => some (.wordEnd !f.unicode, rest)
        | "start-half" => some (.wordStartHalf !f.unicode, rest)
        | "end-half" => some (.wordEndHalf !f.unicode, rest)
        | _ => none
      | _ => none
    else some (.wordEdge !f.unicode, '\x7b' :: c :: r)
  | ['\x7b'] => none
  | r => some (.wordEdge !f.unicode, r)

/-- Reads what follows a backslash. -/
def escape? (f : Flags) : List Char → Option (Escaped × List Char)
  | [] => none
  | c :: r =>
    let char (c : Char) := some (Escaped.char c false, r)
    let hex (count : Nat) := (hexChar? count r).map fun p =>
      (Escaped.char p.1 (count = 2 && r.head? ≠ some '\x7b'), p.2)
    let assert (a : Assertion) := some (Escaped.assert a, r)
    match c with
    | 'x' => hex 2
    | 'u' => hex 4
    | 'U' => hex 8
    | 'p' | 'P' =>
      if f.unicode then
        (property? r).map fun p =>
          let k := foldCase f p.1
          (.set (if c = 'P' then .compl k else k), p.2)
      else none
    | 'd' | 's' | 'w' => some (.set (perl f c), r)
    | 'D' | 'S' | 'W' => (negated? f true (perl f c)).map fun k => (.set k, r)
    | 'a' => char '\x07'
    | 'f' => char '\x0c'
    | 't' => char '\t'
    | 'n' => char '\n'
    | 'r' => char '\r'
    | 'v' => char '\x0b'
    | 'A' => assert .textStart
    | 'z' => assert .textEnd
    | 'b' => (wordEdge? f r).map fun p => (.assert p.1, p.2)
    | 'B' => assert (.notWordEdge !f.unicode)
    | '<' => assert (.wordStart !f.unicode)
    | '>' => assert (.wordEnd !f.unicode)
    | c => if mayEscape c then char c else none

/-- White space and comments are skipped in verbose mode. -/
def skipBlank (f : Flags) (cs : List Char) : List Char :=
  if f.verbose then go cs.length cs else cs
where
  go : Nat → List Char → List Char
    | 0, cs => cs
    | n + 1, cs =>
      match cs with
      | '#' :: r => go n ((r.dropWhile (· ≠ '\n')).drop 1)
      | c :: r => if Unicode.isWhiteSpace c then go n r else c :: r
      | [] => []

/-- A literal character; where Unicode is off a lone byte above the ASCII range is refused. -/
def literal? (f : Flags) (c : Char) (isByte : Bool) : Option CharClass :=
  if isByte && !f.unicode && 127 < c.toNat then none else some (foldCase f (.single c))

/-- Applies case folding, then negation. -/
def finishClass? (f : Flags) (negate : Bool) (k : CharClass) : Option CharClass :=
  negated? f negate (foldCase f k)

/-- Case folding alone. -/
def foldClass (f : Flags) (k : CharClass) : CharClass := foldCase f k

end Turnstile.Regex

import Turnstile.Regex.Bracket

/-! Reading an expression. An expression that breaks a rule of the notation is no expression. -/
namespace Turnstile.Regex

/-- A part of a sequence, with the depth of its nesting. -/
structure Item where
  regex : Regex
  height : Nat := 0
  /-- Flags that stand alone cannot be repeated. -/
  repeatable : Bool := true

/-- An open group: the finished alternatives and the current one, last part first. -/
structure Group where
  flags : Flags
  branches : List Item := []
  items : List Item := []

structure Reading where
  group : Group
  outer : List Group := []
  names : List (List Char) := []

def heightOf (l : List Item) : Nat := l.foldl (fun n i => max n i.height) 0

def sequence (items : List Item) : Item :=
  match items with
  | [] => { regex := .empty }
  | [i] => i
  | items =>
    { regex := items.foldl (fun r i => .cat i.regex r) .empty, height := heightOf items + 1 }

/-- The whole of a group. -/
def Group.close (g : Group) : Item :=
  let last := sequence g.items
  match g.branches with
  | [] => last
  | branches =>
    let all := last :: branches
    { regex := branches.foldl (fun r i => .alt i.regex r) last.regex, height := heightOf all + 1 }

def Reading.push (s : Reading) (i : Item) : Reading :=
  { s with group := { s.group with items := i :: s.group.items } }

def Reading.pushClass (s : Reading) (k : CharClass) : Reading := s.push { regex := .chars k }

def flagLetter? (f : Flags) (c : Char) (on : Bool) : Option Flags :=
  match c with
  | 'i' => some { f with ignoreCase := on }
  | 'm' => some { f with multiLine := on }
  | 's' => some { f with dotAll := on }
  | 'R' => some { f with crlf := on }
  | 'u' => some { f with unicode := on }
  | 'x' => some { f with verbose := on }
  | 'U' => some f
  | _ => none

/-- Flags up to a colon or a closing parenthesis. No letter may occur twice, at most one hyphen may
occur, and not at the end. -/
def flags? (f : Flags) (used : List Char) (on : Bool) :
    List Char → Option (Flags × List Char × List Char)
  | [] => none
  | c :: r =>
    if c = ':' || c = ')' then
      if !on && used.head? = some '-' then none else some (f, used, c :: r)
    else if c = '-' then (if on then flags? f ('-' :: used) false r else none)
    else if used.contains c then none
    else match flagLetter? f c on with
      | none => none
      | some f => flags? f (c :: used) on r

def isNameStart (c : Char) : Bool := c = '_' || Unicode.isAlphabetic c

def isNameChar (c : Char) : Bool :=
  isNameStart c || c = '.' || c = '[' || c = ']' ||
    (Unicode.Category.ofChar c).major = "N"

/-- A group name up to the closing angle bracket. -/
def groupName? (names : List (List Char)) (cs : List Char) :
    Option (List Char × List Char) :=
  let name := cs.takeWhile (· ≠ '>')
  match name, cs.drop name.length with
  | c :: r, '>' :: rest =>
    if isNameStart c && r.all isNameChar && !names.contains name then some (name, rest) else none
  | _, _ => none

def Reading.openGroup (s : Reading) (f : Flags) : Reading :=
  { s with group := { flags := f }, outer := s.group :: s.outer }

/-- What follows an opening parenthesis. -/
def group? (s : Reading) (cs : List Char) : Option (Reading × List Char) :=
  let f := s.group.flags
  let named (r : List Char) : Option (Reading × List Char) := do
    let (name, rest) ← groupName? s.names r
    some ({ s.openGroup f with names := name :: s.names }, rest)
  match skipBlank f cs with
  | '?' :: 'P' :: '<' :: r => named r
  | '?' :: '=' :: _ | '?' :: '!' :: _ | '?' :: '<' :: '=' :: _ | '?' :: '<' :: '!' :: _ => none
  | '?' :: '<' :: r => named r
  | '?' :: r => do
    let (g, used, rest) ← flags? f [] true r
    match rest with
    | ':' :: rest => some (s.openGroup g, rest)
    | _ :: rest =>
      if used.isEmpty then none
      else
        let s := { s with group := { s.group with flags := g } }
        some (s.push { regex := .empty, repeatable := false }, rest)
    | [] => none
  | r => some (s.openGroup f, r)

def closeGroup? (s : Reading) : Option Reading :=
  match s.outer with
  | [] => none
  | o :: outer =>
    let i := s.group.close
    some { s with
      group := { o with items := { i with height := i.height + 1, repeatable := true } :: o.items }
      outer := outer }

/-- Repeats the last part. -/
def repeat? (s : Reading) (low : Nat) (high : Option Nat) : Option Reading :=
  match s.group.items with
  | i :: items =>
    if i.repeatable then
      let i := { i with regex := .times i.regex low high, height := i.height + 1 }
      some { s with group := { s.group with items := i :: items } }
    else none
  | [] => none

/-- A question mark after a repetition changes which match is found, not whether there is one. -/
def skipLazy (f : Flags) (cs : List Char) : List Char :=
  match skipBlank f cs with
  | '?' :: r => r
  | _ => cs

def count? (cs : List Char) : Option (Option Nat) × List Char :=
  let cs := cs.dropWhile Unicode.isWhiteSpace
  let (ds, r) := takeDigits cs
  let r := r.dropWhile Unicode.isWhiteSpace
  if ds.isEmpty then (some none, r)
  else if natOfDigits ds < 0x100000000 then (some (some (natOfDigits ds)), r) else (none, r)

/-- A count, a least count or a range between braces. -/
def counted? (s : Reading) (cs : List Char) : Option (Reading × List Char) :=
  match count? cs with
  | (some (some low), '\x7d' :: r) => (repeat? s low (some low)).map (·, r)
  | (some (some low), ',' :: r) =>
    match count? r with
    | (some none, '\x7d' :: r) => (repeat? s low none).map (·, r)
    | (some (some high), '\x7d' :: r) =>
      if low ≤ high then (repeat? s low (some high)).map (·, r) else none
    | _ => none
  | _ => none

def lineStart (f : Flags) : Assertion :=
  if f.multiLine then (if f.crlf then .crlfLineStart else .lineStart) else .textStart

def lineEnd (f : Flags) : Assertion :=
  if f.multiLine then (if f.crlf then .crlfLineEnd else .lineEnd) else .textEnd

def dot (f : Flags) : CharClass :=
  if f.dotAll then .any
  else if f.crlf then .compl (.union (.single '\r') (.single '\n'))
  else .compl (.single '\n')

/-- One step: the new state and the rest of the text. -/
def step (s : Reading) (c : Char) (r : List Char) : Option (Reading × List Char) :=
  let f := s.group.flags
  match c with
  | '(' => group? s r
  | ')' => (closeGroup? s).map (·, r)
  | '|' =>
    let branch := sequence s.group.items
    let group := { s.group with branches := branch :: s.group.branches, items := [] }
    some ({ s with group }, r)
  | '[' => (bracket? f r).map fun p => (s.push { regex := .chars p.1, height := 1 }, p.2)
  | '*' => (repeat? s 0 none).map (·, skipLazy f r)
  | '+' => (repeat? s 1 none).map (·, skipLazy f r)
  | '?' => (repeat? s 0 (some 1)).map (·, skipLazy f r)
  | '\x7b' => (counted? s r).map fun p => (p.1, skipLazy f p.2)
  | '.' => if f.unicode then some (s.pushClass (dot f), r) else none
  | '^' => some (s.push { regex := .assert (lineStart f) }, r)
  | '$' => some (s.push { regex := .assert (lineEnd f) }, r)
  | '\\' =>
    match escape? f r with
    | some (.char c isByte, rest) => (literal? f c isByte).map fun k => (s.pushClass k, rest)
    | some (.set k, rest) => some (s.pushClass k, rest)
    | some (.assert a, rest) => some (s.push { regex := .assert a }, rest)
    | none => none
  | c =>
    if f.verbose && (Unicode.isWhiteSpace c || c = '#') then some (s, skipBlank f (c :: r))
    else (literal? f c false).map fun k => (s.pushClass k, r)

/-- Every step uses up a character, so the length of the text bounds their number. -/
def run : Nat → Reading → List Char → Option Reading
  | _, s, [] => some s
  | 0, _, _ => none
  | n + 1, s, c :: r =>
    match step s c r with
    | some (s, r) => run n s r
    | none => none

/-- The room that the compiled expression takes, in words; repetitions count once per copy. -/
def room : Regex → Nat
  | .empty => 0
  | .chars k => k.room
  | .assert _ => 4
  | .cat a b => a.room + b.room
  | .alt a b => a.room + b.room + 5
  | .times r low (some high) => r.room * high + 5 * (high - low) + 4
  | .times r low none => r.room * max low 1 + 5

/-- Nesting above this depth is refused. -/
def nestingLimit : Nat := 250

/-- Expressions that take more room are refused. -/
def roomLimit : Nat := 1310720

def parse? (s : String) : Option Regex := do
  let cs := s.toList
  let s ← run cs.length { group := { flags := {} } } cs
  if s.outer.isEmpty then
    let i := s.group.close
    if i.height ≤ nestingLimit && i.regex.room ≤ roomLimit then some i.regex else none
  else none

end Turnstile.Regex

import Turnstile.Toml.Scalar

/-! Whole documents. -/
namespace Turnstile.Toml
namespace Scan

/-- Items up to the closing bracket; a comma may follow the last one. -/
def arrayItems (item : Scan Node) : Nat → Scan (List Node)
  | 0 => failure
  | fuel + 1 => do
    gap
    match ← optional (char ']') with
    | some () => return []
    | none =>
      let n ← item
      gap
      match ← next with
      | ',' => return n :: (← arrayItems item fuel)
      | ']' => return [n]
      | _ => failure

/-- A key and its value. -/
def assignment (item : Scan Node) : Scan (List String × Node) := do
  let k ← key
  char '='
  blank
  return (k, ← item)

/-- The last name of a key and those before it. -/
def split (k : List String) : List String × String := (k.dropLast, k.getLast?.getD "")

/-- Assignments up to the closing brace, with commas between them. -/
def tableEntries (item : Scan Node) (ms : Members) : Nat → Scan Members
  | 0 => failure
  | fuel + 1 => do
    let (k, n) ← assignment item
    let (path, name) := split k
    let ms ← liftM (ms.assign path name n)
    blank
    match ← next with
    | ',' => tableEntries item ms fuel
    | '\x7d' => return ms
    | _ => failure

def inlineTable (item : Scan Node) : Scan Members := do
  blank
  match ← optional (char '\x7d') with
  | some () => return []
  | none => tableEntries item [] (← budget)

/-- A value with at most this many levels of arrays and tables. -/
def value : Nat → Scan Node
  | 0 => scalar
  | levels + 1 => do
    match ← peek with
    | some '[' =>
      discard next
      return .array (← arrayItems (value levels) (← budget))
    | some '\x7b' =>
      discard next
      return .table .inline (← inlineTable (value levels))
    | _ => scalar

def maxLevels : Nat := 79

/-- The header of a table, and whether it is one of several. -/
def header : Scan (List String × Bool) := do
  char '['
  let several := (← optional (char '[')).isSome
  let k ← key
  char ']'
  if several then char ']'
  lineEnd
  return (k, several)

/-- The rest of a document below a header. -/
def lines : Nat → Members → List String → Scan Members
  | 0, _, _ => failure
  | fuel + 1, ms, under => do
    blank
    match ← peek with
    | none => return ms
    | some '#' => comment; newline <|> atEnd; lines fuel ms under
    | some '\n' | some '\r' => newline; lines fuel ms under
    | some '[' =>
      let (k, several) ← header
      let (path, name) := split k
      let ms ← liftM (if several then ms.openNext path name else ms.openTable path name)
      lines fuel ms k
    | some _ =>
      let (k, n) ← assignment (value maxLevels)
      lineEnd
      let (path, name) := split k
      let ms ← liftM (ms.assignUnder under path name n)
      lines fuel ms under

end Scan

/-- The members of a document, if it is well formed. A byte order mark is passed over. -/
def read? (text : String) : Option Members :=
  let cs := match text.toList with
    | '\ufeff' :: r => r
    | cs => cs
  (Scan.lines (cs.length + 1) [] [] cs).map (·.1)

end Turnstile.Toml

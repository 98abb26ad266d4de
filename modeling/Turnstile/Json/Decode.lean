import Turnstile.Json.Doc
import Turnstile.Text.Quoted

/-! Values of expected shapes, read from documents. Of several faults the first one in the text is
reported; what is missing is only noticed at the end. -/
namespace Turnstile

inductive Mismatch where
  | kind (found expected : String)
  | range (n : Int) (expected : String)
  | tooShort (length : Nat) (expected : String)
  | missing (member : String)
  | repeated (member : String)
  | unknownVariant (name : String) (known : List String)
deriving DecidableEq

inductive DecodeError where
  | fault (f : TextFault)
  | mismatch (m : Mismatch)
deriving DecidableEq

private def ticked (s : String) : String := .ofList ('\x60' :: s.toList ++ ['\x60'])

def Mismatch.message : Mismatch → String
  | kind found expected => s!"invalid type: {found}, expected {expected}"
  | range n expected => s!"invalid value: integer {ticked (toString n)}, expected {expected}"
  | tooShort length expected => s!"invalid length {length}, expected {expected}"
  | missing member => s!"missing field {ticked member}"
  | repeated member => s!"duplicate field {ticked member}"
  | unknownVariant name known =>
    let choices := match known.map ticked with
      | [a, b] => s!"{a} or {b}"
      | l => "one of " ++ ", ".intercalate l
    s!"unknown variant {ticked name}, expected {choices}"

def DecodeError.message : DecodeError → String
  | fault .malformed => "malformed text"
  | fault .truncated => "text ends too early"
  | mismatch m => m.message

/-- How many levels of arrays and objects may still be entered, plus one; `none` sets no bound. -/
abbrev Depth := Option Nat

/-- Texts nest at most 127 levels deep. -/
def Depth.ofText : Depth := some 128

def Depth.enter : Depth → Except DecodeError Depth
  | none => .ok none
  | some n => if n ≤ 1 then .error (.fault .malformed) else .ok (some (n - 1))

def Decoder (α : Type) := Depth → Doc → Except DecodeError α

namespace Doc

private def found : Doc → String
  | .bool b => s!"boolean {ticked (toString b)}"
  | .number (.whole n) => s!"integer {ticked (toString n.val)}"
  | .number (.float x) => s!"floating point {ticked (x.value.render .interchange)}"
  | .string s => s!"string {Text.quoted s}"
  | .array _ _ => "sequence"
  | .object _ _ => "map"
  | _ => "null"

/-- The error of a reader that expected something else. -/
def unexpected (d : Doc) (expected : String) : DecodeError :=
  match d with
  | .unreadable => .fault .malformed
  | .broken b => .fault b.onRead
  | d => .mismatch (.kind d.found expected)

end Doc

namespace Decoder
variable {α β : Type}

def map (f : α → β) (d : Decoder α) : Decoder β := fun depth doc => (d depth doc).map f

def string : Decoder String
  | _, .string s => .ok s
  | _, d => .error (d.unexpected "a string")

def bool : Decoder Bool
  | _, .bool b => .ok b
  | _, d => .error (d.unexpected "a boolean")

/-- Whole numbers in a range that has a name. -/
def whole (low high : Int) (name : String) : Decoder Int
  | _, .number (.whole n) =>
    if low ≤ n.val && n.val ≤ high then .ok n.val else .error (.mismatch (.range n.val name))
  | _, d => .error (d.unexpected name)

def int64 : Decoder Int64 :=
  (whole Int64.minValue.toInt Int64.maxValue.toInt "i64").map Int64.ofInt

def uint64 : Decoder UInt64 := (whole 0 (UInt64.size - 1) "u64").map fun i => .ofNat i.toNat

/-- Numbers of things in memory. -/
def count : Decoder UInt64 := (whole 0 (UInt64.size - 1) "usize").map fun i => .ofNat i.toNat

/-- `null` stands for no value. -/
def option (d : Decoder α) : Decoder (Option α)
  | _, .null => .ok none
  | depth, doc => (d depth doc).map some

def endOf (tail : Option Break) : Except DecodeError Unit :=
  tail.elim (.ok ()) fun b => .error (.fault b.onRead)

def items (d : Decoder α) (depth : Depth) : List Doc → Except DecodeError (List α)
  | [] => .ok []
  | doc :: r => do
    let a ← d depth doc
    let l ← items d depth r
    .ok (a :: l)

def list (d : Decoder α) : Decoder (List α)
  | depth, .array docs tail => do
    let depth ← depth.enter
    let l ← items d depth docs
    endOf tail
    .ok l
  | _, doc => .error (doc.unexpected "a sequence")

/-- Of members with one name the last one counts. -/
def members (d : Decoder α) (depth : Depth) (start : Dict α) :
    List (Option String × Doc) → Except DecodeError (Dict α)
  | [] => .ok start
  | (none, _) :: _ => .error (.fault .malformed)
  | (some n, doc) :: r => do
    let a ← d depth doc
    members d depth (start.insert n a) r

def dict (d : Decoder α) : Decoder (Dict α)
  | depth, .object docs tail => do
    let depth ← depth.enter
    let m ← members d depth .empty docs
    endOf tail
    .ok m
  | _, doc => .error (doc.unexpected "a map")

/-- A choice is written as its name, or as an object from its name to `null`. -/
def choice [BEq α] (all : List α) (name : α → String) : Decoder α :=
  let pick (n : String) : Except DecodeError α :=
    match all.find? (name · = n) with
    | some a => .ok a
    | none => .error (.mismatch (.unknownVariant n (all.map name)))
  fun depth doc =>
    match doc with
    | .string n => pick n
    | .object [] tail => do
      let _ ← depth.enter
      endOf tail
      .error (.fault .malformed)
    | .object ((none, _) :: _) _ => .error (.fault .malformed)
    | .object ((some n, content) :: r) tail => do
      let _ ← depth.enter
      let a ← pick n
      match content with
      | .null =>
        if r.isEmpty then
          endOf tail
          .ok a
        else .error (.fault .malformed)
      | d => .error (d.unexpected "unit")
    | .broken b => .error (.fault b.onRead)
    | _ => .error (.fault .malformed)

mutual
/-- Any value. -/
def json : Decoder Json
  | _, .null => .ok .null
  | _, .bool b => .ok (.bool b)
  | _, .number n => .ok (.number n)
  | _, .string s => .ok (.string s)
  | depth, .array docs tail => do
    let depth ← depth.enter
    let l ← jsonItems depth docs
    endOf tail
    .ok (.array l)
  | depth, .object docs tail => do
    let depth ← depth.enter
    let m ← jsonMembers depth .empty docs
    endOf tail
    .ok (.object m.entries)
  | _, .unreadable => .error (.fault .malformed)
  | _, .broken b => .error (.fault b.onRead)

def jsonItems (depth : Depth) : List Doc → Except DecodeError (List Json)
  | [] => .ok []
  | doc :: r => do
    let a ← json depth doc
    let l ← jsonItems depth r
    .ok (a :: l)

def jsonMembers (depth : Depth) (start : Dict Json) :
    List (Option String × Doc) → Except DecodeError (Dict Json)
  | [] => .ok start
  | (none, _) :: _ => .error (.fault .malformed)
  | (some n, doc) :: r => do
    let a ← json depth doc
    jsonMembers depth (start.insert n a) r
end

end Decoder

/-- An error and how far into the record it was met. -/
structure Problem where
  place : Nat
  error : DecodeError

/-- Where the fields of a record are looked for: by name or by position. -/
inductive FieldSource where
  | named (members : List (Option String × Doc))
  | listed (items : List Doc) (expected : String)

/-- The fields of a record, in order. -/
structure Fields (α : Type) where
  names : List String
  /-- Reads the fields, the first of which has the given position. -/
  read : Depth → FieldSource → Nat → Except Problem α

namespace Fields
variable {α β : Type}

/-- Both succeed, or the earlier problem wins. -/
def both (f : Except Problem (α → β)) (x : Except Problem α) : Except Problem β :=
  match f, x with
  | .ok f, .ok a => .ok (f a)
  | .ok _, .error p => .error p
  | .error p, .ok _ => .error p
  | .error p, .error q => .error (if q.place < p.place then q else p)

instance : Applicative Fields where
  pure a := ⟨[], fun _ _ _ => .ok a⟩
  seq f x :=
    let x := x ()
    ⟨f.names ++ x.names, fun depth source i =>
      both (f.read depth source i) (x.read depth source (i + f.names.length))⟩

def find (name : String) : Nat → List (Option String × Doc) → Option (Nat × Doc)
  | _, [] => none
  | i, (n, doc) :: r => if n = some name then some (i, doc) else find name (i + 1) r

def located (place : Nat) (r : Except DecodeError α) : Except Problem α :=
  r.mapError (⟨place, ·⟩)

def absent (fallback : Option α) (place : Nat) (m : Mismatch) : Except Problem α :=
  fallback.elim (.error ⟨place, .mismatch m⟩) .ok

def field (name : String) (d : Decoder α) (fallback : Option α) : Fields α where
  names := [name]
  read depth source i :=
    match source with
    | .named ms =>
      match find name 0 ms with
      | some (place, doc) => located place (d depth doc)
      | none => absent fallback (ms.length + 1) (.missing name)
    | .listed docs expected =>
      match docs[i]? with
      | some doc => located i (d depth doc)
      | none => absent fallback i (.tooShort i expected)

def required (name : String) (d : Decoder α) : Fields α := field name d none

def withDefault (name : String) (d : Decoder α) (fallback : α) : Fields α :=
  field name d (some fallback)

/-- A field whose absence means the same as `null`. -/
def optional (name : String) (d : Decoder α) : Fields (Option α) := withDefault name d.option none

/-- Repeated fields, and faults inside members that are no fields. -/
def disorder (names : List String) (tail : Option Break) :
    List String → Nat → List (Option String × Doc) → Option Problem
  | _, i, [] => tail.map fun b => ⟨i, .fault b.onRead⟩
  | _, i, (none, _) :: _ => some ⟨i, .fault .malformed⟩
  | seen, i, (some n, doc) :: r =>
    if n ∈ names then
      if n ∈ seen then some ⟨i, .mismatch (.repeated n)⟩
      else disorder names tail (n :: seen) (i + 1) r
    else match doc.skip with
      | some f => some ⟨i, .fault f⟩
      | none => disorder names tail seen (i + 1) r

def surplus (count : Nat) (items : List Doc) (tail : Option Break) : Option Problem :=
  if count < items.length then some ⟨count, .fault .malformed⟩
  else tail.map fun b => ⟨items.length, .fault b.onRead⟩

def settle (problem : Option Problem) (r : Except Problem α) : Except DecodeError α :=
  match problem, r with
  | none, .ok a => .ok a
  | some p, .ok _ => .error p.error
  | none, .error q => .error q.error
  | some p, .error q => .error (if q.place < p.place then q else p).error

end Fields

namespace Decoder

/-- A record by member names, or an array of its fields in order. -/
def record {α : Type} (name : String) (fields : Fields α) : Decoder α
  | depth, .object ms tail => do
    let depth ← depth.enter
    Fields.settle (Fields.disorder fields.names tail [] 0 ms) (fields.read depth (.named ms) 0)
  | depth, .array docs tail => do
    let depth ← depth.enter
    let count := fields.names.length
    let plural := if count = 1 then "" else "s"
    let expected := s!"struct {name} with {count} element{plural}"
    Fields.settle (Fields.surplus count docs tail) (fields.read depth (.listed docs expected) 0)
  | _, doc => .error (doc.unexpected s!"struct {name}")

/-- The whole text must be one value. -/
def ofText {α : Type} (d : Decoder α) (text : String) : Except DecodeError α := do
  let (doc, rest) := Doc.read text.toList
  let a ← d .ofText doc
  if (Doc.skipBlank rest).isEmpty then .ok a else .error (.fault .malformed)

end Decoder
end Turnstile

import Turnstile.Dict
import Turnstile.Number.Notation

/-! Values of data interchange. Whole numbers and floating-point numbers are kept apart. -/
namespace Turnstile

/-- Whole numbers that fit into 64 bits, with or without a sign. -/
structure WholeNumber where
  val : Int
  low : -0x8000000000000000 ≤ val := by decide
  high : val < 0x10000000000000000 := by decide
deriving DecidableEq

inductive Number where
  | whole (n : WholeNumber)
  | float (x : FiniteFloat)
deriving DecidableEq

inductive Json where
  | null
  | bool (b : Bool)
  | number (n : Number)
  | string (s : String)
  | array (items : List Json)
  /-- The members in increasing order of their names. -/
  | object (members : List (String × Json))
deriving Inhabited

namespace WholeNumber

def of? (i : Int) : Option WholeNumber :=
  if h : -0x8000000000000000 ≤ i ∧ i < 0x10000000000000000 then some ⟨i, h.1, h.2⟩ else none

theorem of?_val (n : WholeNumber) : of? n.val = some n := dif_pos ⟨n.low, n.high⟩

end WholeNumber

namespace Number

def toBinary64 : Number → Binary64
  | whole n => .ofInt n.val
  | float x => x.value

/-- Whole numbers out of range become the nearest double. -/
def ofInt (i : Int) : Number :=
  match WholeNumber.of? i with
  | some n => .whole n
  | none => .float ((FiniteFloat.of? (.ofInt i)).getD default)

end Number

namespace Json

mutual
def decEq : (a b : Json) → Decidable (a = b)
  | null, null => isTrue rfl
  | bool a, bool b => if h : a = b then isTrue (h ▸ rfl) else isFalse (by simp [h])
  | number a, number b => if h : a = b then isTrue (h ▸ rfl) else isFalse (by simp [h])
  | string a, string b => if h : a = b then isTrue (h ▸ rfl) else isFalse (by simp [h])
  | array a, array b =>
    match decEqItems a b with
    | isTrue h => isTrue (h ▸ rfl)
    | isFalse h => isFalse (by simp [h])
  | object a, object b =>
    match decEqMembers a b with
    | isTrue h => isTrue (h ▸ rfl)
    | isFalse h => isFalse (by simp [h])
  | null, bool _ | null, number _ | null, string _ | null, array _ | null, object _
  | bool _, null | bool _, number _ | bool _, string _ | bool _, array _ | bool _, object _
  | number _, null | number _, bool _ | number _, string _ | number _, array _
  | number _, object _
  | string _, null | string _, bool _ | string _, number _ | string _, array _
  | string _, object _
  | array _, null | array _, bool _ | array _, number _ | array _, string _ | array _, object _
  | object _, null | object _, bool _ | object _, number _ | object _, string _
  | object _, array _ => isFalse (by simp)

def decEqItems : (a b : List Json) → Decidable (a = b)
  | [], [] => isTrue rfl
  | [], _ :: _ | _ :: _, [] => isFalse (by simp)
  | a :: r, b :: s =>
    match decEq a b, decEqItems r s with
    | isTrue h, isTrue k => isTrue (h ▸ k ▸ rfl)
    | isFalse h, _ => isFalse (by simp [h])
    | _, isFalse h => isFalse (by simp [h])

def decEqMembers : (a b : List (String × Json)) → Decidable (a = b)
  | [], [] => isTrue rfl
  | [], _ :: _ | _ :: _, [] => isFalse (by simp)
  | (m, a) :: r, (n, b) :: s =>
    if hm : m = n then
      match decEq a b, decEqMembers r s with
      | isTrue h, isTrue k => isTrue (hm ▸ h ▸ k ▸ rfl)
      | isFalse h, _ => isFalse (by simp [h])
      | _, isFalse h => isFalse (by simp [h])
    else isFalse (by simp [hm])
end

instance : DecidableEq Json := decEq

def int (i : Int) : Json := .number (.ofInt i)

/-- A number that is not finite has no value of its own and becomes `null`. -/
def float (x : Binary64) : Json :=
  match FiniteFloat.of? x with
  | some x => .number (.float x)
  | none => .null

/-- Of members with one name the last one counts. -/
def obj (members : List (String × Json)) : Json := .object (Dict.ofList members).entries

/-- Absent members are left out. -/
def record (members : List (String × Option Json)) : Json :=
  obj (members.filterMap fun m => m.2.map (m.1, ·))

def strings (l : List String) : Json := .array (l.map .string)

def ofDict (d : Dict Json) : Json := .object d.entries

def ofOption (v : Option Json) : Json := v.getD .null

def zeroSign (n : Number) : Number :=
  match n with
  | .float x => if x.value.isZero then .float default else .float x
  | n => n

mutual
/-- Forgets the sign of zero. -/
def unsignedZero : Json → Json
  | number n => number (zeroSign n)
  | array items => array (unsignedZeroItems items)
  | object members => object (unsignedZeroMembers members)
  | v => v

def unsignedZeroItems : List Json → List Json
  | [] => []
  | v :: r => unsignedZero v :: unsignedZeroItems r

def unsignedZeroMembers : List (String × Json) → List (String × Json)
  | [] => []
  | (n, v) :: r => (n, unsignedZero v) :: unsignedZeroMembers r
end

/-- Equality of values: the two floating-point zeros are equal, a whole number never equals a
floating-point one. -/
def same (a b : Json) : Bool := a.unsignedZero = b.unsignedZero

end Json
end Turnstile

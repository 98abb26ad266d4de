import Turnstile.Number.Binary64

/-! Settings as trees of named values. -/
namespace Turnstile.Toml

/-- How a table came about, which decides where more may be put into it. -/
inductive Origin where
  /-- It has a header of its own. -/
  | header
  /-- It stands in the header of another table. -/
  | implied
  /-- It stands in the dotted key of a value. -/
  | dotted
  /-- It is written in one line. -/
  | inline
deriving DecidableEq, Inhabited

inductive Node where
  | string (s : String)
  | integer (i : Int)
  | float (x : Binary64)
  | bool (b : Bool)
  /-- A date or a time; what it says is not kept. -/
  | moment
  | array (items : List Node)
  | table (origin : Origin) (members : List (String × Node))
  /-- Tables under one header, repeated for each of them. -/
  | tables (items : List (List (String × Node)))
deriving Inhabited

abbrev Members := List (String × Node)

namespace Members

def find? (ms : Members) (name : String) : Option Node :=
  (List.find? (fun m => m.1 = name) ms).map (·.2)

def contains (ms : Members) (name : String) : Bool := (ms.find? name).isSome

/-- The member is known to exist. -/
def replace (ms : Members) (name : String) (n : Node) : Members :=
  List.map (fun m => if m.1 = name then (name, n) else m) ms

/-- Changes the table at the end of a path. Tables on the way are created if they are missing; of
repeated tables the last one is entered. Dotted keys do not lead into tables that have a header of
their own, and nothing leads into tables written in one line. -/
def changeAt (dotted : Bool) (f : Origin → Members → Option Members) :
    List String → Origin → Members → Option Members
  | [], origin, ms => f origin ms
  | name :: path, _, ms =>
    match ms.find? name with
    | none => do
      let origin := if dotted then .dotted else .implied
      return ms ++ [(name, .table origin (← changeAt dotted f path origin []))]
    | some (.table origin sub) =>
      if origin = .inline || dotted && origin = .header then none
      else do
        return ms.replace name (.table origin (← changeAt dotted f path origin sub))
    | some (.tables items) => do
      let last ← changeAt dotted f path .header (items.getLast?.getD [])
      return ms.replace name (.tables (items.dropLast ++ [last]))
    | some _ => none

/-- Gives a new member of a table its value. Behind a dotted key only tables that such keys have
made can be extended. -/
def assign (ms : Members) (path : List String) (name : String) (n : Node) : Option Members :=
  changeAt true (fun origin sub =>
    if (origin == .dotted) == path.isEmpty || sub.contains name then none
    else some (sub ++ [(name, n)])) path .header ms

/-- The header of a table that is new or has only been implied so far. -/
def openTable (ms : Members) (path : List String) (name : String) : Option Members :=
  changeAt false (fun _ sub =>
    match sub.find? name with
    | none => some (sub ++ [(name, .table .header [])])
    | some (.table .implied members) => some (sub.replace name (.table .header members))
    | some _ => none) path .header ms

/-- The header of one more of several tables. -/
def openNext (ms : Members) (path : List String) (name : String) : Option Members :=
  changeAt false (fun _ sub =>
    match sub.find? name with
    | none => some (sub ++ [(name, .tables [[]])])
    | some (.tables items) => some (sub.replace name (.tables (items ++ [[]])))
    | some _ => none) path .header ms

/-- A value in the table under a header. -/
def assignUnder (ms : Members) (header path : List String) (name : String) (n : Node) :
    Option Members :=
  changeAt false (fun _ sub => sub.assign path name n) header .header ms

end Members
end Turnstile.Toml

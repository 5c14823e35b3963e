/-
Tables of a settings file while they are read. A table can be written in several ways, and the way
it came to be decides what may be added to it later.
-/
import Scaffold.Json.Basic

namespace Scaffold
namespace Toml

/-- How a table came to be. -/
inductive Kind where
  /-- On the way of a header to a table below it. -/
  | implied
  | header
  | dotted
  /-- Written as a value; nothing can be added. -/
  | inline
deriving DecidableEq, Repr

inductive Value where
  | text (s : String)
  | number (n : Number)
  | flag (b : Bool)
  /-- A date, a time or both, as written. -/
  | moment (s : String)
  | array (items : List Value)
  | table (kind : Kind) (members : List (String × Value))
  /-- Tables of one header, of which the last can be added to. -/
  | tables (items : List (List (String × Value)))

abbrev Members := List (String × Value)

namespace Members

def find? (key : String) (ms : Members) : Option Value :=
  ms.lookup key

/-- Sets a member at its place, or at the end. -/
def set (key : String) (value : Value) : Members → Members
  | [] => [(key, value)]
  | m :: rest => if m.1 == key then (key, value) :: rest else m :: set key value rest

def add (key : String) (value : Value) (ms : Members) : Option Members :=
  match find? key ms with
  | some _ => none
  | none => some (ms ++ [(key, value)])

/-- Changes a table some keys down. Missing tables are made, of the given kind; `may` tells which
kinds of tables may be gone through, and `throughLists` whether the last one of several may be. -/
def change (made : Kind) (may : Kind → Bool) (throughLists : Bool) (f : Members → Option Members) :
    List String → Members → Option Members
  | [], ms => f ms
  | key :: rest, ms =>
    match find? key ms with
    | none => do return set key (.table made (← change made may throughLists f rest [])) ms
    | some (.table kind inner) =>
      if may kind then do
        return set key (.table kind (← change made may throughLists f rest inner)) ms
      else none
    | some (.tables items) =>
      match throughLists, items.getLast? with
      | true, some last => do
        let last ← change made may throughLists f rest last
        return set key (.tables (items.dropLast ++ [last])) ms
      | _, _ => none
    | some _ => none

/-- Changes the table that a header leads to. -/
def inHeader (f : Members → Option Members) (keys : List String) (ms : Members) :
    Option Members :=
  change .implied (· ≠ .inline) true f keys ms

def addDotted (value : Value) (keys : List String) (ms : Members) : Option Members :=
  match keys.getLast? with
  | some last => change .dotted (· = .dotted) false (add last value) keys.dropLast ms
  | none => none

def openTable (keys : List String) (ms : Members) : Option Members :=
  match keys.getLast? with
  | none => none
  | some last =>
    inHeader (fun inner => match find? last inner with
      | none => some (set last (.table .header []) inner)
      | some (.table .implied members) => some (set last (.table .header members) inner)
      | some _ => none) keys.dropLast ms

/-- Opens one more table of a header that stands for several. -/
def openNext (keys : List String) (ms : Members) : Option Members :=
  match keys.getLast? with
  | none => none
  | some last =>
    inHeader (fun inner => match find? last inner with
      | none => some (set last (.tables [[]]) inner)
      | some (.tables items) => some (set last (.tables (items ++ [[]])) inner)
      | some _ => none) keys.dropLast ms

end Members

mutual

/-- The document value of a value; `ofMoment` tells what stands for dates and times. -/
def Value.toJson (ofMoment : String → Json) : Value → Json
  | .text s => .string s
  | .number n => .number n
  | .flag b => .bool b
  | .moment s => ofMoment s
  | .array items => .array (itemsToJson ofMoment items)
  | .table _ members => .object (membersToJson ofMoment members)
  | .tables items => .array (tablesToJson ofMoment items)

def itemsToJson (ofMoment : String → Json) : List Value → List Json
  | [] => []
  | v :: rest => v.toJson ofMoment :: itemsToJson ofMoment rest

def membersToJson (ofMoment : String → Json) : List (String × Value) → List (String × Json)
  | [] => []
  | (key, v) :: rest => (key, v.toJson ofMoment) :: membersToJson ofMoment rest

def tablesToJson (ofMoment : String → Json) : List (List (String × Value)) → List Json
  | [] => []
  | ms :: rest => .object (membersToJson ofMoment ms) :: tablesToJson ofMoment rest

end

end Toml
end Scaffold

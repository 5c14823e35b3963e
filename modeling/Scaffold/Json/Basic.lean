/-
Ordered documents: objects keep the order of their members, and no two members of an object that
was read have the same key.
-/
import Scaffold.Binary64

namespace Scaffold

/-- Numbers of a document: integers of 64 bits are exact, all others are binary64. -/
inductive Number where
  | natural (n : Nat)
  /-- The negative integer `-n`. -/
  | negative (n : Nat)
  | float (x : Binary64)
deriving DecidableEq, Repr

/-- A document value. -/
inductive Json where
  | null
  | bool (b : Bool)
  | number (n : Number)
  | string (s : String)
  | array (items : List Json)
  | object (members : List (String × Json))
deriving Inhabited

namespace Json

mutual

/-- Equality of documents, member order included. -/
def same : Json → Json → Bool
  | .null, .null => true
  | .bool a, .bool b => a == b
  | .number a, .number b => a == b
  | .string a, .string b => a == b
  | .array a, .array b => sameItems a b
  | .object a, .object b => sameMembers a b
  | _, _ => false

def sameItems : List Json → List Json → Bool
  | [], [] => true
  | a :: as, b :: bs => same a b && sameItems as bs
  | _, _ => false

def sameMembers : List (String × Json) → List (String × Json) → Bool
  | [], [] => true
  | (k, a) :: as, (l, b) :: bs => k == l && same a b && sameMembers as bs
  | _, _ => false

end

mutual

/-- The number of values in a document, itself included. -/
def size : Json → Nat
  | .array items => 1 + sizeItems items
  | .object members => 1 + sizeMembers members
  | _ => 1

def sizeItems : List Json → Nat
  | [] => 0
  | item :: rest => size item + sizeItems rest

def sizeMembers : List (String × Json) → Nat
  | [] => 0
  | (_, value) :: rest => size value + sizeMembers rest

end

/-- The value of the member with the given key. -/
def lookup (key : String) (members : List (String × Json)) : Option Json :=
  (members.find? (·.1 == key)).map (·.2)

/-- Sets a member: an existing one keeps its place, a new one comes last. -/
def setMember (key : String) (value : Json) : List (String × Json) → List (String × Json)
  | [] => [(key, value)]
  | (k, v) :: rest => if k = key then (key, value) :: rest else (k, v) :: setMember key value rest

theorem lookup_setMember (key : String) (value : Json) (members : List (String × Json)) :
    lookup key (setMember key value members) = some value := by
  induction members with
  | nil => simp [setMember, lookup]
  | cons m rest ih =>
    obtain ⟨k, v⟩ := m
    by_cases h : k = key
    · simp [setMember, lookup, h]
    · simpa [setMember, lookup, h] using ih

/-- The member of an object; nothing for other values. -/
def get? (key : String) : Json → Option Json
  | .object members => lookup key members
  | _ => none

def str? : Json → Option String
  | .string s => some s
  | _ => none

def bool? : Json → Option Bool
  | .bool b => some b
  | _ => none

def items? : Json → Option (List Json)
  | .array items => some items
  | _ => none

def members? : Json → Option (List (String × Json))
  | .object members => some members
  | _ => none

/-- A natural number of at most 64 bits. -/
def nat? : Json → Option Nat
  | .number (.natural n) => some n
  | _ => none

/-- The text of the member of an object, if it is one. -/
def strAt? (key : String) (value : Json) : Option String :=
  (value.get? key).bind str?

def boolAt? (key : String) (value : Json) : Option Bool :=
  (value.get? key).bind bool?

def natAt? (key : String) (value : Json) : Option Nat :=
  (value.get? key).bind nat?

def itemsAt? (key : String) (value : Json) : Option (List Json) :=
  (value.get? key).bind items?

def membersAt? (key : String) (value : Json) : Option (List (String × Json)) :=
  (value.get? key).bind members?

def ofTexts (texts : List String) : Json :=
  .array (texts.map .string)

def ofNat (n : Nat) : Json :=
  .number (.natural n)

/-- A number, or null where there is none. -/
def ofNat? (n : Option Nat) : Json :=
  (n.map ofNat).getD .null

/-- The items of an array member, none if there is no such array. -/
def itemsAt (key : String) (value : Json) : List Json :=
  (value.itemsAt? key).getD []

/-- The members of an object member, none if there is no such object. -/
def membersAt (key : String) (value : Json) : List (String × Json) :=
  (value.membersAt? key).getD []

end Json
end Scaffold

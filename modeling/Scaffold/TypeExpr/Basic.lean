/-
Type expressions: a name applied to arguments, with marks for references, enums and null. Other
types are held by name only, so a cyclic model has finite expressions.
-/
import Scaffold.Primitive
import Scaffold.Text.Split

namespace Scaffold

/-- A type as the model holds it. -/
structure TypeExpr where
  name : String
  args : List TypeExpr
  /-- Names another type of the model. -/
  isReference : Bool
  isEnum : Bool
  isNullable : Bool
deriving Inhabited

namespace TypeExpr

mutual

def decEq : (a b : TypeExpr) → Decidable (a = b)
  | ⟨n, as, r, e, u⟩, ⟨n', as', r', e', u'⟩ =>
    match decEqList as as' with
    | isTrue h =>
      if h' : n = n' ∧ r = r' ∧ e = e' ∧ u = u' then
        isTrue (by obtain ⟨rfl, rfl, rfl, rfl⟩ := h'; rw [h])
      else isFalse (by
        intro he
        injection he with h1 _ h3 h4 h5
        exact h' ⟨h1, h3, h4, h5⟩)
    | isFalse h => isFalse (by
        intro he
        injection he with _ h2
        exact h h2)

def decEqList : (as bs : List TypeExpr) → Decidable (as = bs)
  | [], [] => isTrue rfl
  | [], _ :: _ => isFalse (by simp)
  | _ :: _, [] => isFalse (by simp)
  | a :: as, b :: bs =>
    match decEq a b, decEqList as bs with
    | isTrue h, isTrue h' => isTrue (by rw [h, h'])
    | isFalse h, _ => isFalse (by simp [h])
    | _, isFalse h => isFalse (by simp [h])

end

instance : DecidableEq TypeExpr :=
  decEq

def listName : String := "List"

def dictionaryName : String := "Dictionary"

/-- A plain name. -/
def named (name : String) : TypeExpr :=
  ⟨name, [], false, false, false⟩

/-- A primitive under its canonical name; an unknown name is kept. -/
def primitive (name : String) : TypeExpr :=
  named ((canonicalPrimitive? name).getD name)

def reference (name : String) : TypeExpr :=
  ⟨name, [], true, false, false⟩

def enumeration (name : String) : TypeExpr :=
  ⟨name, [], true, true, false⟩

def list (element : TypeExpr) : TypeExpr :=
  ⟨listName, [element], false, false, false⟩

def dictionary (key value : TypeExpr) : TypeExpr :=
  ⟨dictionaryName, [key, value], false, false, false⟩

def generic (name : String) (args : List TypeExpr) : TypeExpr :=
  ⟨name, args, true, false, false⟩

def withNullable (nullable : Bool) (t : TypeExpr) : TypeExpr :=
  { t with isNullable := nullable }

def orNull (t : TypeExpr) : TypeExpr :=
  t.withNullable true

def isGeneric (t : TypeExpr) : Bool :=
  !t.args.isEmpty

def isList (t : TypeExpr) : Bool :=
  t.name == listName && t.args.length == 1

def isDictionary (t : TypeExpr) : Bool :=
  t.name == dictionaryName && t.args.length == 2

def isPrimitive (t : TypeExpr) : Bool :=
  !t.isGeneric && !t.isEnum && (canonicalPrimitive? t.name).isSome

/-- Whether values need a marker to be null. -/
def isValueType (t : TypeExpr) : Bool :=
  t.isEnum || (!t.isGeneric && isValuePrimitive t.name)

def element? : TypeExpr → Option TypeExpr
  | ⟨name, [element], _, _, _⟩ => if name = listName then some element else none
  | _ => none

def value? : TypeExpr → Option TypeExpr
  | ⟨name, [_, value], _, _, _⟩ => if name = dictionaryName then some value else none
  | _ => none

/-- What is left when list elements and map values are unwrapped. -/
def innermost : TypeExpr → TypeExpr
  | ⟨name, [element], r, e, u⟩ =>
    if name = listName then innermost element else ⟨name, [element], r, e, u⟩
  | ⟨name, [key, value], r, e, u⟩ =>
    if name = dictionaryName then innermost value else ⟨name, [key, value], r, e, u⟩
  | t => t

/-- Changes what `innermost` gives and keeps the lists and maps around it. -/
def mapInnermost (f : TypeExpr → TypeExpr) : TypeExpr → TypeExpr
  | ⟨name, [element], r, e, u⟩ =>
    if name = listName then ⟨name, [mapInnermost f element], r, e, u⟩
    else f ⟨name, [element], r, e, u⟩
  | ⟨name, [key, value], r, e, u⟩ =>
    if name = dictionaryName then ⟨name, [key, mapInnermost f value], r, e, u⟩
    else f ⟨name, [key, value], r, e, u⟩
  | t => f t

mutual

/-- The type as text: `List<int?>?`. -/
def text : TypeExpr → String
  | ⟨name, args, _, _, isNullable⟩ =>
    name ++ argsText args ++ (if isNullable then "?" else "")

/-- The arguments in angle brackets; nothing for none. -/
def argsText : List TypeExpr → String
  | [] => ""
  | first :: rest => "<" ++ text first ++ restText rest ++ ">"

def restText : List TypeExpr → String
  | [] => ""
  | first :: rest => ", " ++ text first ++ restText rest

end

/-- The text without the outer null mark. -/
def canonicalName (t : TypeExpr) : String :=
  text (t.withNullable false)

mutual

/-- The names of all references in the expression, from the outside in. -/
def references : TypeExpr → List String
  | ⟨name, args, isReference, _, _⟩ =>
    (if isReference then [name] else []) ++ referencesIn args

def referencesIn : List TypeExpr → List String
  | [] => []
  | t :: rest => references t ++ referencesIn rest

end

end TypeExpr
end Scaffold

/-
Rendering: a template and its data give a text, or nothing where the template asks for what
cannot be had.
-/
import Scaffold.Json.Writer
import Scaffold.Template.Basic
import Scaffold.Text.Blank
import Scaffold.Text.Letter

namespace Scaffold
namespace Template

/-- A value, or none where a name stands for nothing. -/
abbrev Value := Option Json

/-- What names stand for; the first entry of a name counts. -/
abbrev Scope := List (String × Json)

namespace Value

/-- Whether a value counts as a condition that holds: anything but nothing, zero and what is
empty. -/
def holds : Value → Bool
  | none => false
  | some .null => false
  | some (.bool b) => b
  | some (.number (.natural n)) => n ≠ 0
  | some (.number (.negative n)) => n ≠ 0
  | some (.number (.float x)) => !x.isZero
  | some (.string s) => !s.isEmpty
  | some (.array items) => !items.isEmpty
  | some (.object members) => !members.isEmpty

mutual

/-- A value inside a list or an object, in writing. -/
def inner : Json → String
  | .null => "none"
  | .bool b => if b then "true" else "false"
  | .number n => (Json.number n).text
  | .string s => (Json.string s).text
  | .array items => "[" ++ Text.join ", " (innerItems items) ++ "]"
  | .object members => "\x7b" ++ Text.join ", " (innerMembers members) ++ "\x7d"

def innerItems : List Json → List String
  | [] => []
  | item :: rest => inner item :: innerItems rest

def innerMembers : List (String × Json) → List String
  | [] => []
  | (key, value) :: rest =>
    ((Json.string key).text ++ ": " ++ inner value) :: innerMembers rest

end

/-- A value in writing; nothing is written for nothing. -/
def text : Value → String
  | none => ""
  | some (.string s) => s
  | some value => inner value

/-- A member of a value. Nothing has no members, which is a fault; other values without the
member have nothing there. -/
def member (name : String) : Value → Option Value
  | none => none
  | some value => some (value.get? name)

/-- An item of a list by position or of an object by key. -/
def item (value index : Value) : Option Value :=
  match value, index with
  | none, _ => none
  | some value, some (.string key) => some (value.get? key)
  | some (.array items), some (.number (.natural n)) => some items[n]?
  | some _, _ => some none

/-- The items to repeat a part for; numbers and flags have none, which is a fault. -/
def items? : Value → Option (List Json)
  | none => some []
  | some .null => some []
  | some (.array items) => some items
  | some (.object members) => some (members.map fun (key, _) => .string key)
  | some (.string s) => some (s.toList.map fun c => .string (String.ofList [c]))
  | _ => none

def same : Value → Value → Bool
  | none, none => true
  | some a, some b => a.same b
  | _, _ => false

def integer? : Value → Option Int
  | some (.number (.natural n)) => some n
  | some (.number (.negative n)) => some (-n)
  | _ => none

def ofInteger (n : Int) : Value :=
  some (.number (if n < 0 then .negative n.natAbs else .natural n.natAbs))

/-- Whether a value comes before another; only numbers and texts have an order. -/
def precedes (a b : Value) : Bool :=
  match integer? a, integer? b with
  | some a, some b => a < b
  | _, _ =>
    match a, b with
    | some (.string a), some (.string b) => a < b
    | _, _ => false

/-- Whether a value is among the items of a list, the keys of an object or the parts of a text. -/
def inside? (a : Value) : Value → Option Bool
  | some (.array items) => some (items.any fun item => same a (some item))
  | some (.object members) => some (members.any fun (key, _) => same a (some (.string key)))
  | some (.string s) =>
    match a with
    | some (.string part) => some (Text.contains part s)
    | _ => some false
  | none => some false
  | _ => none

/-- The value of an operator that looks at both sides. -/
def combine (operator : Operator) (a b : Value) : Option Value :=
  let flag := fun b : Bool => some (some (Json.bool b))
  let arithmetic := fun f : Int → Int → Int => do
    some (ofInteger (f (← integer? a) (← integer? b)))
  match operator with
  | .and => some (if holds a then b else a)
  | .or => some (if holds a then a else b)
  | .equal => flag (same a b)
  | .unequal => flag !(same a b)
  | .less => flag (precedes a b)
  | .lessOrEqual => flag (precedes a b || same a b)
  | .greater => flag (precedes b a)
  | .greaterOrEqual => flag (precedes b a || same a b)
  | .inside => (inside? a b).map fun b => some (.bool b)
  | .concat => some (some (.string (text a ++ text b)))
  | .add => arithmetic (· + ·)
  | .subtract => arithmetic (· - ·)
  | .multiply => arithmetic (· * ·)

def capitalized (s : String) : String :=
  match s.toList with
  | [] => ""
  | c :: rest =>
    Text.uppercase (String.ofList [c]) ++ Text.lowercase (String.ofList rest)

def length? : Value → Option Nat
  | some (.string s) => some s.length
  | some (.array items) => some items.length
  | some (.object members) => some members.length
  | _ => none

/-- What a filter makes of a value; none for a filter there is not. -/
def filtered (filter : String) (value : Value) (arguments : List Value) : Option Value :=
  let write := fun s : String => some (some (Json.string s))
  match filter, arguments with
  | "lower", [] => write (Text.lowercase (text value))
  | "upper", [] => write (Text.uppercase (text value))
  | "capitalize", [] => write (capitalized (text value))
  | "trim", [] => write (Text.trim (text value))
  | "string", [] => write (text value)
  | "safe", [] => some value
  | "length", [] => (length? value).map fun n => ofInteger n
  | "count", [] => (length? value).map fun n => ofInteger n
  | "first", [] => (items? value).map (·.head?)
  | "last", [] => (items? value).map (·.getLast?)
  | "join", [] => (items? value).bind fun items => write (Text.join "" (items.map (text ∘ some)))
  | "join", [separator] =>
    (items? value).bind fun items => write (Text.join (text separator) (items.map (text ∘ some)))
  | "default", [other] => some (if value.isNone then other else value)
  | "d", [other] => some (if value.isNone then other else value)
  | "default", [] => some (if value.isNone then some (.string "") else value)
  | "d", [] => some (if value.isNone then some (.string "") else value)
  | _, _ => none

/-- Whether a value passes a test; none for a test there is not. -/
def tested (test : String) (value : Value) : Option Bool :=
  match test, value with
  | "defined", v => some v.isSome
  | "undefined", v => some v.isNone
  | "none", some .null => some true
  | "none", _ => some false
  | "string", some (.string _) => some true
  | "string", _ => some false
  | "number", some (.number _) => some true
  | "number", _ => some false
  | "true", some (.bool b) => some b
  | "true", _ => some false
  | "false", some (.bool b) => some !b
  | "false", _ => some false
  | "sequence", some (.array _) => some true
  | "sequence", _ => some false
  | "mapping", some (.object _) => some true
  | "mapping", _ => some false
  | _, _ => none

end Value

mutual

/-- The value of an expression. The right side of `and` and `or` counts only where the left one
does not decide. -/
def Expr.eval (scope : Scope) : Expr → Option Value
  | .literal value => some (some value)
  | .name key => some (Json.lookup key scope)
  | .member e key => (eval scope e).bind (Value.member key)
  | .item e index => (eval scope e).bind fun v => (eval scope index).bind (Value.item v)
  | .negation e => (eval scope e).map fun v => some (.bool !(Value.holds v))
  | .joined operator left right =>
    (eval scope left).bind fun a =>
      if operator = .and ∧ !Value.holds a ∨ operator = .or ∧ Value.holds a then some a
      else (eval scope right).bind (Value.combine operator a)
  | .choice yes condition no =>
    (eval scope condition).bind fun c =>
      if Value.holds c then eval scope yes
      else match no with
      | some no => eval scope no
      | none => some none
  | .filtered e filter arguments =>
    (eval scope e).bind fun v => (evalAll scope arguments).bind (Value.filtered filter v)
  | .tested e test =>
    (eval scope e).bind fun v => (Value.tested test v).map fun b => some (.bool b)
  | .list items => (evalAll scope items).map fun vs => some (.array (vs.map (·.getD .null)))

def Expr.evalAll (scope : Scope) : List Expr → Option (List Value)
  | [] => some []
  | e :: rest => (eval scope e).bind fun v => (evalAll scope rest).map (v :: ·)

end

/-- What is known of the place in a repetition: `i` is the position from zero, `n` the number of
items. -/
def loopState (i n : Nat) : Json :=
  let number := fun k => Json.number (.natural k)
  .object [
    ("index", number (i + 1)), ("index0", number i), ("revindex", number (n - i)),
    ("revindex0", number (n - i - 1)), ("first", .bool (i = 0)), ("last", .bool (i + 1 = n)),
    ("length", number n)]

/-- The items that satisfy the condition of a repetition. -/
def chosen (scope : Scope) (itemName : String) (condition : Option Expr) (items : List Json) :
    Option (List Json) :=
  match condition with
  | none => some items
  | some condition =>
    items.filterMapM fun item =>
      (condition.eval ((itemName, item) :: scope)).map fun v =>
        if Value.holds v then some item else none

/-- Renders a part for items from position `i` on, `n` of them in all. -/
def repeated (render : Scope → Option String) (scope : Scope) (itemName : String) (n : Nat) :
    Nat → List Json → Option String
  | _, [] => some ""
  | i, item :: rest => do
    let here ← render ((itemName, item) :: ("loop", loopState i n) :: scope)
    let later ← repeated render scope itemName n (i + 1) rest
    some (here ++ later)

mutual

def Node.render (scope : Scope) : Node → Option String
  | .text s => some s
  | .emit e => (e.eval scope).map Value.text
  | .branch condition yes no =>
    (condition.eval scope).bind fun c =>
      if Value.holds c then renderAll scope yes else renderAll scope no
  | .each itemName source condition body otherwise =>
    (source.eval scope).bind fun v =>
      (Value.items? v).bind fun items =>
        (chosen scope itemName condition items).bind fun items =>
          if items.isEmpty then renderAll scope otherwise
          else repeated (fun scope => renderAll scope body) scope itemName items.length 0 items

def Node.renderAll (scope : Scope) : List Node → Option String
  | [] => some ""
  | node :: rest =>
    (render scope node).bind fun first => (renderAll scope rest).map (first ++ ·)

end

/-- The text of a template, in the normal form of generated texts. -/
def render (template : Template) (data : Json) : Option String :=
  (Node.renderAll (data.members?.getD []) template).map Text.tidy

end Template
end Scaffold

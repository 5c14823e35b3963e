/-
Templates: text with places for values, repeated parts and parts under a condition.
-/
import Scaffold.Json.Basic

namespace Scaffold
namespace Template

inductive Operator where
  | and
  | or
  | equal
  | unequal
  | less
  | lessOrEqual
  | greater
  | greaterOrEqual
  | inside
  | concat
  | add
  | subtract
  | multiply
deriving DecidableEq, Repr

inductive Expr where
  | literal (value : Json)
  | name (name : String)
  | member (e : Expr) (name : String)
  | item (e index : Expr)
  | negation (e : Expr)
  | joined (operator : Operator) (left right : Expr)
  /-- The first expression if the condition holds, otherwise the last one or nothing. -/
  | choice (yes condition : Expr) (no : Option Expr)
  | filtered (e : Expr) (filter : String) (arguments : List Expr)
  | tested (e : Expr) (test : String)
  | list (items : List Expr)

inductive Node where
  | text (text : String)
  | emit (e : Expr)
  /-- The body for every item of a list that satisfies the condition; `otherwise` if there is no
  such item. -/
  | each (itemName : String) (source : Expr) (condition : Option Expr) (body otherwise : List Node)
  | branch (condition : Expr) (yes no : List Node)

namespace Source

/-- The text of lines, each of them ended. -/
def ofLines (lines : List String) : String :=
  String.join (lines.map (· ++ "\n"))

end Source

end Template

/-- A template is read from its source once and rendered with any data. -/
abbrev Template := List Template.Node

end Scaffold

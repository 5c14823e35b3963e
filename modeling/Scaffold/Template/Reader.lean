/-
Templates from their pieces: expressions by how tightly operators bind, blocks by their tags.
-/
import Scaffold.Reading
import Scaffold.Template.Basic
import Scaffold.Template.Token

namespace Scaffold
namespace Template

abbrev Read (α : Type) := Reading Token α

namespace Expr

open Reading

def sign? (text : String) : Read Bool :=
  item? (.sign text)

def word? (text : String) : Read Bool :=
  item? (.name text)

/-- Words that are no names. -/
def reserved : List String :=
  ["and", "or", "not", "if", "else", "in", "is"]

def takeName : Read String :=
  required (takeIf fun
    | .name text => some text
    | _ => none)

/-- Reads what an operator chain starts from, then its operators and right sides. -/
def chain (operators : List (Token × Operator)) (sub : Read Expr) : Read Expr := do
  let first ← sub
  grow (fun left => do
    match ← takeIf fun t => (operators.find? (·.1 = t)).map (·.2) with
    | some operator => return some (.joined operator left (← sub))
    | none => return none) first

/-! The readers below take the reader of a whole expression, `sub`. -/

def takeArguments (sub : Read Expr) : Read (List Expr) := do
  if !(← sign? "(") then return []
  if ← sign? ")" then return []
  let arguments ← Reading.separated (.sign ",") sub
  Reading.item (.sign ")")
  return arguments

/-- Reads a constant, a name, a list, or an expression in parentheses. -/
def takePrimary (sub : Read Expr) : Read Expr := do
  if ← sign? "(" then
    let e ← sub
    Reading.item (.sign ")")
    return e
  if ← sign? "[" then
    if ← sign? "]" then return .list []
    let items ← Reading.separated (.sign ",") sub
    Reading.item (.sign "]")
    return .list items
  required (takeIf fun
    | .string text => some (.literal (.string text))
    | .number n => some (.literal (.number n))
    | .name text =>
      match text with
      | "true" => some (.literal (.bool true))
      | "True" => some (.literal (.bool true))
      | "false" => some (.literal (.bool false))
      | "False" => some (.literal (.bool false))
      | "none" => some (.literal .null)
      | "None" => some (.literal .null)
      | _ => if reserved.contains text then none else some (.name text)
    | _ => none)

/-- Reads members, filters and tests behind a value. -/
def takePostfixed (sub : Read Expr) : Read Expr := do
  let first ← takePrimary sub
  let value ← grow (fun e => do
    if ← sign? "." then return some (.member e (← takeName))
    else if ← sign? "[" then
      let index ← sub
      Reading.item (.sign "]")
      return some (.item e index)
    else return none) first
  grow (fun e => do
    if ← sign? "|" then
      let name ← takeName
      return some (.filtered e name (← takeArguments sub))
    else if ← word? "is" then
      let isNegated ← word? "not"
      let test := Expr.tested e (← takeName)
      return some (if isNegated then .negation test else test)
    else return none) value

def takeProduct (sub : Read Expr) : Read Expr :=
  chain [(.sign "*", .multiply)] (takePostfixed sub)

def takeConcat (sub : Read Expr) : Read Expr :=
  chain [(.sign "~", .concat)] (takeProduct sub)

def takeSum (sub : Read Expr) : Read Expr :=
  chain [(.sign "+", .add), (.sign "-", .subtract)] (takeConcat sub)

def comparisons : List (Token × Operator) := [
  (.sign "==", .equal), (.sign "!=", .unequal), (.sign "<", .less), (.sign "<=", .lessOrEqual),
  (.sign ">", .greater), (.sign ">=", .greaterOrEqual), (.name "in", .inside)]

def takeComparison (sub : Read Expr) : Read Expr := do
  let left ← chain comparisons (takeSum sub)
  let outside ← maybe do
    Reading.item (.name "not")
    Reading.item (.name "in")
    takeSum sub
  match outside with
  | some right => return .negation (.joined .inside left right)
  | none => return left

/-- Reads a negation; each `not` in a row negates once. -/
def takeNegation (sub : Read Expr) : Read Expr := do
  let nots ← many do
    return if ← word? "not" then some () else none
  let e ← takeComparison sub
  return nots.foldl (fun e _ => .negation e) e

def takeAnd (sub : Read Expr) : Read Expr :=
  chain [(.name "and", .and)] (takeNegation sub)

def takeOr (sub : Read Expr) : Read Expr :=
  chain [(.name "or", .or)] (takeAnd sub)

def takeChoice (sub : Read Expr) : Read Expr := do
  let first ← takeOr sub
  grow (fun yes => do
    if ← word? "if" then
      let condition ← takeOr sub
      if ← word? "else" then return some (.choice yes condition (some (← sub)))
      else return some (.choice yes condition none)
    else return none) first

/-- Reads an expression nested at most `depth` deep. -/
def take : Nat → Read Expr
  | 0 => fail
  | depth + 1 => takeChoice (take depth)

def maxDepth : Nat := 150

/-- The whole of some tokens as an expression. -/
def ofTokens? (ts : List Token) : Option Expr :=
  match take maxDepth ts with
  | some (e, []) => some e
  | _ => none

end Expr

namespace Node

/-- The name of an item, the list and the condition in the tag of a repeated part. -/
def eachHead? (ts : List Token) : Option (String × Expr × Option Expr) :=
  let read : Read (String × Expr × Option Expr) := do
    let itemName ← Expr.takeName
    Reading.item (.name "in")
    let source ← Expr.takeOr (Expr.take Expr.maxDepth)
    if ← Expr.word? "if" then return (itemName, source, some (← Expr.take Expr.maxDepth))
    else return (itemName, source, none)
  match read ts with
  | some (head, []) => some head
  | _ => none

/-- Nodes up to a tag that belongs to the block around them. -/
structure Block where
  nodes : List Node
  /-- The tag, or none at the end of the source. -/
  closing : Option (List Token)
  rest : List Piece

mutual

def takeBlock : Nat → List Piece → Option Block
  | 0, _ => none
  | _ + 1, [] => some ⟨[], none, []⟩
  | fuel + 1, piece :: rest => do
    match piece with
    | .text cs => after fuel (.text (String.ofList cs)) rest
    | .emit ts => after fuel (.emit (← Expr.ofTokens? ts)) rest
    | .tag (.name "for" :: ts) =>
      let (itemName, source, condition) ← eachHead? ts
      let body ← takeBlock fuel rest
      if body.closing = some [.name "else"] then
        let otherwise ← takeBlock fuel body.rest
        if otherwise.closing = some [.name "endfor"] then
          after fuel (.each itemName source condition body.nodes otherwise.nodes) otherwise.rest
        else none
      else if body.closing = some [.name "endfor"] then
        after fuel (.each itemName source condition body.nodes []) body.rest
      else none
    | .tag (.name "if" :: ts) =>
      let (node, rest) ← takeBranch fuel ts rest
      after fuel node rest
    | .tag ts => some ⟨[], some ts, rest⟩

/-- Puts a node in front of the rest of its block. -/
def after : Nat → Node → List Piece → Option Block
  | 0, _, _ => none
  | fuel + 1, node, rest => do
    let block ← takeBlock fuel rest
    some { block with nodes := node :: block.nodes }

/-- Reads a part under a condition, the tokens of which are given. -/
def takeBranch : Nat → List Token → List Piece → Option (Node × List Piece)
  | 0, _, _ => none
  | fuel + 1, ts, rest => do
    let condition ← Expr.ofTokens? ts
    let yes ← takeBlock fuel rest
    match yes.closing with
    | some [.name "endif"] => some (.branch condition yes.nodes [], yes.rest)
    | some [.name "else"] =>
      let no ← takeBlock fuel yes.rest
      if no.closing = some [.name "endif"] then
        some (.branch condition yes.nodes no.nodes, no.rest)
      else none
    | some (.name "elif" :: ts) =>
      let (node, rest) ← takeBranch fuel ts yes.rest
      some (.branch condition yes.nodes [node], rest)
    | _ => none

end

end Node

def parse? (source : String) : Option Template := do
  let pieces ← pieces? source
  let block ← Node.takeBlock (2 * pieces.length + 1) pieces
  if block.closing.isNone then some block.nodes else none

end Template
end Scaffold

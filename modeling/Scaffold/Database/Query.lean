/-
Queries. Nothing is made of a query but that it is one: the readers here only accept.
-/
import Scaffold.Database.Expr

namespace Scaffold
namespace Database
namespace Query

/-- Words that go on with a query, and so are no names given in passing. -/
def reserved : List String := [
  "FROM", "WHERE", "GROUP", "HAVING", "ORDER", "LIMIT", "OFFSET", "UNION", "EXCEPT", "INTERSECT",
  "MINUS", "ON", "USING", "JOIN", "INNER", "LEFT", "RIGHT", "FULL", "CROSS", "NATURAL", "SET",
  "INTO", "VALUES", "AS", "FOR", "WITH", "FETCH", "SELECT", "WINDOW", "END", "STRAIGHT_JOIN",
  "LATERAL", "QUALIFY", "RETURNING", "SORT", "CLUSTER", "DISTRIBUTE", "PARTITION", "TOP"]

/-- Passes over a name given in passing. -/
def skipAlias : Read Unit := do
  if ← Read.keyword? "AS" then
    let _ ← Read.ident
  else if !(← Read.atKeyword reserved) then
    let _ ← Read.ident?

def skipColumns : Read Unit := do
  if ← Read.atSign "(" then
    let _ ← Read.listed Read.ident

def takeItem (expr : Read Expr) : Read Unit := do
  let wildcard := do
    let _ ← Reading.many do
      let name ← Reading.maybe (do
        let _ ← Read.ident
        Read.sign ".")
      return name
    Read.sign "*"
  match ← Reading.maybe wildcard with
  | some _ => pure ()
  | none =>
    let _ ← expr
    skipAlias

def takeSource (query : Read Unit) : Read Unit := do
  if ← Read.sign? "(" then
    query
    Read.sign ")"
  else
    let _ ← Read.path
  skipAlias

/-- Reads the next table that is joined, if there is one. -/
def takeJoin (expr : Read Expr) (query : Read Unit) : Read (Option Unit) := do
  let isNatural ← Read.keyword? "NATURAL"
  let side ← Read.oneOf? ["INNER", "CROSS", "LEFT", "RIGHT", "FULL"]
  let _ ← Read.keyword? "OUTER"
  if ← Read.keyword? "JOIN" then
    takeSource query
    if ← Read.keyword? "ON" then
      let _ ← expr
    else if ← Read.keyword? "USING" then skipColumns
    return some ()
  else if isNatural || side.isSome then Reading.fail
  else return none

def takeTables (expr : Read Expr) (query : Read Unit) : Read Unit := do
  let _ ← Read.commaSeparated do
    takeSource query
    let _ ← Reading.many (takeJoin expr query)

def skipWhere (expr : Read Expr) : Read Unit := do
  if ← Read.keyword? "WHERE" then
    let _ ← expr

/-- Passes over the order and the limits of a result. -/
def skipOrder (expr : Read Expr) : Read Unit := do
  if ← Read.keywords? ["ORDER", "BY"] then
    let _ ← Read.commaSeparated do
      let _ ← expr
      let _ ← Read.oneOf? ["ASC", "DESC"]
  if ← Read.keyword? "LIMIT" then
    let _ ← expr
    if ← Read.sign? "," then
      let _ ← expr
  if ← Read.keyword? "OFFSET" then
    let _ ← expr

def takeSelect (expr : Read Expr) (query : Read Unit) : Read Unit := do
  let _ ← Read.oneOf? ["DISTINCT", "ALL"]
  let _ ← Read.commaSeparated (takeItem expr)
  if ← Read.keyword? "FROM" then takeTables expr query
  skipWhere expr
  if ← Read.keywords? ["GROUP", "BY"] then
    let _ ← Read.commaSeparated expr
  if ← Read.keyword? "HAVING" then
    let _ ← expr

def takeRows (expr : Read Expr) : Read Unit := do
  let _ ← Read.commaSeparated do
    let _ ← Read.keyword? "ROW"
    Read.inParens do
      if !(← Read.atSign ")") then
        let _ ← Read.commaSeparated expr

def takeOperand (expr : Read Expr) (query : Read Unit) : Read Unit := do
  if ← Read.keyword? "SELECT" then takeSelect expr query
  else if ← Read.keyword? "VALUES" then takeRows expr
  else if ← Read.keyword? "TABLE" then
    let _ ← Read.path
  else Read.inParens query

def takeBody (expr : Read Expr) (query : Read Unit) : Read Unit := do
  if ← Read.keyword? "WITH" then
    let _ ← Read.keyword? "RECURSIVE"
    let _ ← Read.commaSeparated do
      let _ ← Read.ident
      skipColumns
      Read.keyword "AS"
      Read.inParens query
  takeOperand expr query
  let _ ← Reading.many do
    match ← Read.oneOf? ["UNION", "EXCEPT", "INTERSECT", "MINUS"] with
    | some _ =>
      let _ ← Read.oneOf? ["ALL", "DISTINCT"]
      takeOperand expr query
      return some ()
    | none => return none
  skipOrder expr
  if ← Read.keyword? "FOR" then
    let _ ← Reading.required (Read.oneOf? ["UPDATE", "SHARE"])

end Query

mutual

/-- Reads an expression of operators that bind more tightly than `level`, nested at most `depth`
deep. -/
def Expr.take (depth : Nat) (inColumn : Bool) (level : Nat) : Read Expr :=
  match depth with
  | 0 => Reading.fail
  | depth + 1 => do
    let first ← Expr.takeOperand (Expr.take depth inColumn) (Query.take depth)
    Reading.grow (Expr.takeOperator inColumn (Expr.take depth inColumn) (Query.take depth) level) first

def Query.take (depth : Nat) : Read Unit :=
  match depth with
  | 0 => Reading.fail
  | depth + 1 => Query.takeBody (Expr.take depth false 0) (Query.take depth)

end

def maxDepth : Nat := 49

def expr : Read Expr :=
  Expr.take maxDepth false 0

/-- Reads an expression in the definition of a column. In parentheses it is one like any other. -/
def columnExpr : Read Expr := do
  if ← Read.atSign "(" then Expr.takeGroup (Expr.take maxDepth false) (Query.take maxDepth)
  else Expr.take maxDepth true 0

def query : Read Unit :=
  Query.take maxDepth

end Database
end Scaffold

/-
Expressions in normal spelling: one space around operators, keywords in capitals, names as they
are written. They are kept to be written out again, so an expression is the row of its parts.
-/
import Scaffold.Database.DataType

namespace Scaffold
namespace Database

inductive Expr where
  /-- A literal or a keyword. -/
  | verbatim (text : String)
  | name (path : List Ident)
  /-- A sign and what stands behind it without a space. -/
  | signed (sign : String) (e : Expr)
  /-- Parts with a space between them. -/
  | row (parts : List Expr)
  /-- Items in parentheses. -/
  | group (items : List Expr)
  | call (path : List Ident) (items : List Expr)
deriving Repr

namespace Expr

mutual

def written : Expr → String
  | verbatim text => text
  | name path => writtenPath path
  | signed sign e => sign ++ written e
  | row parts => writtenRow " " parts
  | group items => "(" ++ writtenRow ", " items ++ ")"
  | call path items => writtenPath path ++ "(" ++ writtenRow ", " items ++ ")"

def writtenRow (separator : String) : List Expr → String
  | [] => ""
  | [e] => written e
  | e :: rest => written e ++ separator ++ writtenRow separator rest

end

/-- A name written as a keyword. -/
def ofKeyword (keyword : String) : List Ident :=
  [⟨keyword, none⟩]

/-- How tightly the operator at the front binds; 0 if there is none. Where a column is defined,
what could belong to its definition is no operator. -/
def binding (inColumn : Bool) : List Token → Nat
  | .word text none :: rest =>
    match Text.uppercase text with
    | "OR" => 5
    | "AND" => 10
    | "XOR" => 24
    | "IS" => 17
    | "IN" => 20
    | "BETWEEN" => 20
    | "LIKE" => 19
    | "RLIKE" => 19
    | "REGEXP" => 19
    | "DIV" => 40
    | "COLLATE" => if inColumn then 0 else 15
    | "NOT" =>
      match rest with
      | .word text none :: _ =>
        match Text.uppercase text with
        | "IN" => 20
        | "BETWEEN" => 20
        | "LIKE" => 19
        | "RLIKE" => 19
        | "REGEXP" => 19
        | "NULL" => if inColumn then 0 else 17
        | _ => 0
      | _ => 0
    | _ => 0
  | .sign text :: _ =>
    if ["=", "==", "<", "<=", "<>", "!=", ">", ">=", "<=>"].contains text then 20
    else if ["*", "/", "%", "||"].contains text then 40
    else if ["+", "-"].contains text then 30
    else if ["<<", ">>", "^"].contains text then 22
    else if text == "&" then 23
    else if text == "|" then 21
    else if ["->", "->>"].contains text then 16
    else if text == "&&" then 10
    else 0
  | _ => 0

/-- An operator in normal spelling. -/
def normalSign (text : String) : String :=
  if text == "!=" then "<>" else if text == "&&" then "AND" else text

/-! ## Reading

The readers below take the reader of an expression that binds more tightly than a level, `sub`,
and the reader of a query. -/

/-- Reads a query in an expression; it is kept as its tokens. -/
def takeQuery (query : Read Unit) : Read Expr := fun ts =>
  match query ts with
  | some (_, rest) =>
    some (.row ((ts.take (ts.length - rest.length)).map fun
      | .word text quote => .verbatim (Ident.written ⟨text, quote⟩)
      | .number text => .verbatim text
      | .string text => .verbatim (quoted '\x27' text)
      | .doubleQuoted text => .verbatim (quoted '"' text)
      | .marked letter text => .verbatim (String.ofList [letter] ++ quoted '\x27' text)
      | .sign text => .verbatim text), rest)
  | none => none

def startsQuery : Read Bool :=
  Read.atKeyword ["SELECT", "WITH", "VALUES"]

def takeGroup (sub : Nat → Read Expr) (query : Read Unit) : Read Expr := Read.inParens do
  if ← startsQuery then return .group [← takeQuery query]
  else return .group (← Read.commaSeparated (sub 0))

/-- Reads a literal. Texts in a row are one text. -/
def takeLiteral? : Read (Option Expr) := do
  match ← Reading.takeIf fun
    | .number text => some (Sum.inl text)
    | .doubleQuoted text => some (.inl (quoted '"' text))
    | .marked letter text => some (.inl (String.ofList [letter, '\x27'] ++ text ++ "'"))
    | .sign "?" => some (.inl "?")
    | .string text => some (.inr text)
    | _ => none with
  | some (.inl text) => return some (.verbatim text)
  | some (.inr text) =>
    let more ← Reading.many (Reading.takeIf fun
      | .string text => some text
      | _ => none)
    return some (.verbatim (quoted '\x27' (text ++ Text.join "" more)))
  | none =>
    match ← Read.oneOf? ["TRUE", "FALSE", "NULL"] with
    | some "NULL" => return some (.verbatim "NULL")
    | some word => return some (.verbatim (Text.lowercase word))
    | none => return none

def takeArgument (sub : Nat → Read Expr) : Read Expr := do
  if ← Read.sign? "*" then return .verbatim "*" else sub 0

def takeArguments (sub : Nat → Read Expr) (query : Read Unit) : Read (List Expr) :=
  Read.inParens do
    if ← Read.atSign ")" then return []
    if ← startsQuery then return [← takeQuery query]
    let how ← Read.oneOf? ["DISTINCT", "ALL"]
    let items ← Read.commaSeparated (takeArgument sub)
    match how, items with
    | some word, first :: rest => return .row [.verbatim word, first] :: rest
    | _, _ => return items

def takeName (sub : Nat → Read Expr) (query : Read Unit) : Read Expr := do
  let path ← Read.path
  if ← Read.atSign "(" then return .call path (← takeArguments sub query)
  match path, ← Reading.peek with
  | [⟨text, none⟩], some (.string _) =>
    if Text.startsWith "_" text then
      return .row [.name path, ← Reading.required takeLiteral?]
    else return .name path
  | _, _ => return .name path

def takeCase (sub : Nat → Read Expr) : Read Expr := do
  let operand ← if ← Read.atKeyword ["WHEN"] then pure [] else do pure [← sub 0]
  let branches ← Reading.many do
    if ← Read.keyword? "WHEN" then
      let condition ← sub 0
      Read.keyword "THEN"
      return some [.verbatim "WHEN", condition, .verbatim "THEN", ← sub 0]
    else return none
  if branches.isEmpty then Reading.fail
  let otherwise ← if ← Read.keyword? "ELSE" then do pure [Expr.verbatim "ELSE", ← sub 0]
    else pure []
  Read.keyword "END"
  return .row (.verbatim "CASE" :: operand ++ branches.flatten ++ otherwise ++ [.verbatim "END"])

/-- Reads an expression that starts with a keyword of its own. -/
def takeSpecial (sub : Nat → Read Expr) (query : Read Unit) : Read Expr := do
  if ← Read.keyword? "NOT" then
    return .row [.verbatim "NOT", ← sub 15]
  else if ← Read.keyword? "CASE" then takeCase sub
  else if ← Read.keyword? "CAST" then Read.inParens do
    let e ← sub 0
    Read.keyword "AS"
    return .call (ofKeyword "CAST") [.row [e, .verbatim "AS", .verbatim (← DataType.take).written]]
  else if ← Read.keyword? "CONVERT" then Read.inParens do
    let e ← sub 0
    if ← Read.keyword? "USING" then
      return .call (ofKeyword "CONVERT") [.row [e, .verbatim "USING", .name (← Read.path)]]
    Read.sign ","
    return .call (ofKeyword "CONVERT") [e, .verbatim (← DataType.take).written]
  else if ← Read.keyword? "EXISTS" then
    return .row [.verbatim "EXISTS", .group [← Read.inParens (takeQuery query)]]
  else if ← Read.keyword? "EXTRACT" then Read.inParens do
    let field ← Read.ident
    Read.keyword "FROM"
    return .call (ofKeyword "EXTRACT")
      [.row [.verbatim (Text.uppercase field.text), .verbatim "FROM", ← sub 0]]
  else if ← Read.keyword? "INTERVAL" then
    let e ← sub 0
    match ← Read.ident? with
    | some unit => return .row [.verbatim "INTERVAL", e, .verbatim (Text.uppercase unit.text)]
    | none => return .row [.verbatim "INTERVAL", e]
  else Reading.fail

/-- Reads a literal behind the name of its type. -/
def takeTyped : Read Expr := do
  let type ← DataType.take
  if type.isCustom then Reading.fail
  return .row [.verbatim type.written, ← Reading.required takeLiteral?]

/-- Reads an expression up to its first operator. -/
def takeOperand (sub : Nat → Read Expr) (query : Read Unit) : Read Expr := do
  if let some e ← takeLiteral? then return e
  if let some e ← Reading.maybe takeTyped then return e
  match ← Reading.peek with
  | some (.sign "(") => takeGroup sub query
  | some (.sign text) =>
    if ["-", "+"].contains text then
      Read.sign text
      return .signed text (← sub 40)
    else if text == "~" then
      Read.sign text
      return .signed text (← sub 30)
    else Reading.fail
  | some (.word _ none) =>
    match ← Reading.maybe (takeSpecial sub query) with
    | some e => return e
    | none => takeName sub query
  | some (.word _ _) => takeName sub query
  | _ => Reading.fail

def takeTest (sub : Nat → Read Expr) : Read (List Expr) := do
  let negation := if ← Read.keyword? "NOT" then [.verbatim "NOT"] else []
  match ← Read.oneOf? ["NULL", "TRUE", "FALSE", "UNKNOWN"] with
  | some word => return negation ++ [.verbatim word]
  | none =>
    Read.keywords ["DISTINCT", "FROM"]
    return negation ++ [.verbatim "DISTINCT FROM", ← sub 0]

/-- Reads a comparison by keyword that can be negated. -/
def takeComparison (sub : Nat → Read Expr) (query : Read Unit) (left : Expr) : Read Expr := do
  let isNegated ← Read.keyword? "NOT"
  let negation := if isNegated then [.verbatim "NOT"] else []
  match ← Read.oneOf? ["IN", "BETWEEN", "LIKE", "RLIKE", "REGEXP", "NULL"] with
  | some "NULL" => if isNegated then return .row [left, .verbatim "IS NOT NULL"] else Reading.fail
  | some "IN" => return .row (left :: negation ++ [.verbatim "IN", ← takeGroup sub query])
  | some "BETWEEN" =>
    let low ← sub 20
    Read.keyword "AND"
    return .row (left :: negation ++ [.verbatim "BETWEEN", low, .verbatim "AND", ← sub 20])
  | some word =>
    let pattern ← sub 19
    let escape ← if ← Read.keyword? "ESCAPE" then do
        pure [Expr.verbatim "ESCAPE", ← Reading.required takeLiteral?]
      else pure []
    return .row (left :: negation ++ [.verbatim word, pattern] ++ escape)
  | none => Reading.fail

/-- Reads an operator that binds more tightly than `level`, and its right side. -/
def takeOperator (inColumn : Bool) (sub : Nat → Read Expr) (query : Read Unit) (level : Nat)
    (left : Expr) : Read (Option Expr) := do
  let strength := binding inColumn (← get)
  if strength ≤ level then return none
  match ← Reading.takeIf fun
    | .sign text => some text
    | _ => none with
  | some text => return some (.row [left, .verbatim (normalSign text), ← sub strength])
  | none =>
    match ← Read.oneOf? ["AND", "OR", "XOR", "DIV"] with
    | some word => return some (.row [left, .verbatim word, ← sub strength])
    | none =>
      if ← Read.keyword? "IS" then return some (.row (left :: .verbatim "IS" :: (← takeTest sub)))
      else if ← Read.keyword? "COLLATE" then
        return some (.row [left, .verbatim "COLLATE", .name (← Read.path)])
      else return some (← takeComparison sub query left)

end Expr
end Database
end Scaffold

/-
Statements of a schema. Of all statements only those that create tables are kept; the others are
read and passed over.
-/
import Scaffold.Database.Query

namespace Scaffold
namespace Database

/-- What is said of a column behind its type. -/
inductive ColumnOption where
  | notNull
  | nullable
  | default (value : Expr)
  | primaryKey
  | unique
  | comment (text : String)
  | autoIncrement
  | other
deriving Repr

structure ColumnDefinition where
  name : String
  type : DataType
  options : List ColumnOption
deriving Repr

/-- What is said of several columns of a table. -/
inductive Constraint where
  | primaryKey (columns : List String)
  | unique (name : Option String) (columns : List String)
  | index (name : Option String) (columns : List String)
  | foreignKey (columns : List String) (table : String) (referenced : List String)
  | other
deriving Repr

inductive Statement where
  | createTable (name : String) (columns : List ColumnDefinition) (constraints : List Constraint)
  | other
deriving Repr

namespace Statement

/-- The last name of a path. -/
def lastName (path : List Ident) : String :=
  (path.getLast?.map Ident.text).getD ""

/-! ## Columns -/

/-- Passes over what says when a constraint is checked. -/
def skipCharacteristics : Read Unit := do
  let _ ← Reading.many do
    if ← Read.keyword? "DEFERRABLE" then return some ()
    else if ← Read.keywords? ["NOT", "DEFERRABLE"] then return some ()
    else if ← Read.keyword? "INITIALLY" then
      let _ ← Reading.required (Read.oneOf? ["DEFERRED", "IMMEDIATE"])
      return some ()
    else if ← Read.keyword? "ENFORCED" then return some ()
    else if ← Read.keywords? ["NOT", "ENFORCED"] then return some ()
    else return none

def takeAction : Read Unit := do
  if ← Read.keyword? "RESTRICT" then pure ()
  else if ← Read.keyword? "CASCADE" then pure ()
  else if ← Read.keywords? ["SET", "NULL"] then pure ()
  else if ← Read.keywords? ["NO", "ACTION"] then pure ()
  else Read.keywords ["SET", "DEFAULT"]

/-- The columns a foreign key refers to, if they are named. -/
def takeReferenced : Read (List String) := do
  if ← Read.atSign "(" then return (← Read.listed Read.ident).map Ident.text else return []

/-- Reads what a foreign key refers to: the table and its columns. -/
def takeReference : Read (String × List String) := do
  let table ← Read.path
  let referenced ← takeReferenced
  let _ ← Reading.many do
    if ← Read.keyword? "MATCH" then
      let _ ← Reading.required (Read.oneOf? ["FULL", "PARTIAL", "SIMPLE"])
      return some ()
    else if ← Read.keywords? ["ON", "DELETE"] then
      takeAction
      return some ()
    else if ← Read.keywords? ["ON", "UPDATE"] then
      takeAction
      return some ()
    else return none
  skipCharacteristics
  return (lastName table, referenced)

def skipEnforced : Read Unit := do
  if !(← Read.keyword? "ENFORCED") then
    let _ ← Read.keywords? ["NOT", "ENFORCED"]

def takeComputed : Read Unit := do
  let _ ← Read.inParens expr
  let _ ← Read.oneOf? ["STORED", "VIRTUAL"]

def takeOption : Read (Option ColumnOption) := do
  if ← Read.keywords? ["CHARACTER", "SET"] then
    let _ ← Read.path
    return some .other
  else if ← Read.keyword? "COLLATE" then
    let _ ← Read.path
    return some .other
  else if ← Read.keywords? ["NOT", "NULL"] then return some .notNull
  else if ← Read.keyword? "COMMENT" then return some (.comment (← Read.string))
  else if ← Read.keyword? "NULL" then return some .nullable
  else if ← Read.keyword? "DEFAULT" then return some (.default (← columnExpr))
  else if ← Read.keywords? ["PRIMARY", "KEY"] then
    skipCharacteristics
    return some .primaryKey
  else if ← Read.keyword? "UNIQUE" then
    let _ ← Read.keyword? "KEY"
    skipCharacteristics
    return some .unique
  else if ← Read.keyword? "KEY" then
    skipCharacteristics
    return some .primaryKey
  else if ← Read.keyword? "REFERENCES" then
    let _ ← takeReference
    return some .other
  else if ← Read.keyword? "CHECK" then
    let _ ← Read.inParens expr
    skipEnforced
    return some .other
  else if ← Read.keyword? "AUTO_INCREMENT" then return some .autoIncrement
  else if ← Read.keywords? ["ON", "UPDATE"] then
    let _ ← columnExpr
    return some .other
  else if ← Read.keywords? ["GENERATED", "ALWAYS", "AS"] then
    takeComputed
    return some .other
  else if ← Read.keyword? "AS" then
    takeComputed
    return some .other
  else if ← Read.keyword? "SRID" then
    let _ ← columnExpr
    return some .other
  else if ← Read.keyword? "INVISIBLE" then return some .other
  else return none

/-- Reads an option of a column; one with a name in front has to be there. -/
def takeNamedOption : Read (Option ColumnOption) := do
  if ← Read.keyword? "CONSTRAINT" then
    let _ ← Read.ident
    return some (← Reading.required takeOption)
  else takeOption

def takeColumn : Read ColumnDefinition := do
  let name ← Read.ident
  let type ← DataType.take
  return ⟨name.text, type, ← Reading.many takeNamedOption⟩

/-! ## Constraints -/

/-- Passes over the kind of an index. -/
def skipIndexKind : Read Bool := do
  if ← Read.keyword? "USING" then
    let _ ← Read.ident
    return true
  else return false

/-- Passes over the options of an index. -/
def skipIndexOptions : Read Unit := do
  let _ ← Reading.many do
    if ← skipIndexKind then return some ()
    else if ← Read.keyword? "COMMENT" then
      let _ ← Read.literalText
      return some ()
    else return none

/-- Reads a column of an index: a name, or an expression in normal spelling. -/
def takeIndexColumn : Read String := do
  let e ← expr
  if !(← Read.atKeyword ["ASC", "DESC", "NULLS", "WITH"]) then
    let _ ← Reading.maybe Read.path
  let _ ← Read.oneOf? ["ASC", "DESC"]
  if ← Read.keyword? "NULLS" then
    let _ ← Reading.required (Read.oneOf? ["FIRST", "LAST"])
  match e with
  | .name [i] => return i.text
  | _ => return e.written

/-- Reads the columns of an index with what belongs to them. -/
def takeIndexColumns : Read (List String) := do
  let _ ← skipIndexKind
  let columns ← Read.listed takeIndexColumn
  skipIndexOptions
  return columns

/-- Reads a constraint with the given name, if one is there. -/
def takeNamedConstraint (name : Option String) : Read (Option Constraint) := do
  if ← Read.keyword? "UNIQUE" then
    let _ ← Read.oneOf? ["INDEX", "KEY"]
    let _ ← Read.ident?
    let columns ← takeIndexColumns
    skipCharacteristics
    return some (.unique name columns)
  else if ← Read.keyword? "PRIMARY" then
    Read.keyword "KEY"
    let _ ← Read.ident?
    let columns ← takeIndexColumns
    skipCharacteristics
    return some (.primaryKey columns)
  else if ← Read.keyword? "FOREIGN" then
    Read.keyword "KEY"
    let _ ← Read.ident?
    let columns ← Read.listed Read.ident
    Read.keyword "REFERENCES"
    let (table, referenced) ← takeReference
    return some (.foreignKey (columns.map Ident.text) table referenced)
  else if ← Read.keyword? "CHECK" then
    let _ ← Read.inParens expr
    skipEnforced
    return some .other
  else if name.isSome then return none
  else match ← Read.oneOf? ["INDEX", "KEY", "FULLTEXT", "SPATIAL"] with
  | none => return none
  | some word =>
    let isPlain := word == "INDEX" || word == "KEY"
    if !isPlain then
      let _ ← Read.oneOf? ["INDEX", "KEY"]
    let name ← if isPlain && (← Read.atKeyword ["USING"]) then pure none else Read.ident?
    if isPlain then return some (.index (name.map Ident.text) (← takeIndexColumns))
    else
      let _ ← Read.listed takeIndexColumn
      return some .other

def takeConstraint : Read (Option Constraint) := do
  if ← Read.keyword? "CONSTRAINT" then
    if ← Read.atKeyword ["PRIMARY", "UNIQUE", "FOREIGN", "CHECK"] then
      return some (← Reading.required (takeNamedConstraint none))
    let name ← Read.ident
    return some (← Reading.required (takeNamedConstraint (some name.text)))
  else takeNamedConstraint none

/-! ## Tables -/

def takeEntry : Read (ColumnDefinition ⊕ Constraint) := do
  match ← takeConstraint with
  | some c => return .inr c
  | none =>
    match ← Reading.peek with
    | some (.word _ _) => return .inl (← takeColumn)
    | _ => Reading.fail

/-- Reads the columns and constraints of a table; there may be none. -/
def takeEntries : Read (List ColumnDefinition × List Constraint) := do
  if !(← Read.sign? "(") || (← Read.sign? ")") then return ([], [])
  let entries ← Read.commaSeparated takeEntry
  Read.sign ")"
  return (entries.filterMap Sum.getLeft?, entries.filterMap Sum.getRight?)

/-- Names of table options that have a value. -/
def valueOptions : List (List String) := [
  ["DEFAULT", "CHARSET"], ["CHARSET"], ["DEFAULT", "CHARACTER", "SET"], ["CHARACTER", "SET"],
  ["DEFAULT", "COLLATE"], ["COLLATE"], ["DATA", "DIRECTORY"], ["INDEX", "DIRECTORY"],
  ["KEY_BLOCK_SIZE"], ["ROW_FORMAT"], ["PACK_KEYS"], ["STATS_AUTO_RECALC"],
  ["STATS_PERSISTENT"], ["STATS_SAMPLE_PAGES"], ["DELAY_KEY_WRITE"], ["COMPRESSION"],
  ["ENCRYPTION"], ["MAX_ROWS"], ["MIN_ROWS"], ["AUTOEXTEND_SIZE"], ["AVG_ROW_LENGTH"],
  ["CHECKSUM"], ["CONNECTION"], ["ENGINE_ATTRIBUTE"], ["PASSWORD"],
  ["SECONDARY_ENGINE_ATTRIBUTE"], ["INSERT_METHOD"], ["AUTO_INCREMENT"]]

def takeAny : List (List String) → Read Bool
  | [] => pure false
  | words :: rest => do
    if ← Read.keywords? words then return true else takeAny rest

def skipTableOption : Read (Option Unit) := do
  if ← Read.keywords? ["START", "TRANSACTION"] then return some ()
  else if ← Read.keyword? "COMMENT" then
    let _ ← Read.sign? "="
    let _ ← Read.string
    return some ()
  else if ← Read.keyword? "ENGINE" then
    let _ ← Read.sign? "="
    let _ ← Reading.required (Reading.takeIf fun t => if t.isWord then some () else none)
    Query.skipColumns
    return some ()
  else if ← Read.keyword? "TABLESPACE" then
    let _ ← Read.sign? "="
    let _ ← Read.ident
    return some ()
  else if ← Read.keyword? "UNION" then
    let _ ← Read.sign? "="
    let _ ← Read.listed Read.ident
    return some ()
  else if ← takeAny valueOptions then
    let _ ← Read.sign? "="
    match ← Expr.takeLiteral? with
    | some _ => return some ()
    | none =>
      let _ ← Read.ident
      return some ()
  else return none

def skipTableOptions : Read Unit := do
  let _ ← Reading.many do
    match ← skipTableOption with
    | some _ =>
      let _ ← Read.sign? ","
      return some ()
    | none => return none

def takeTable : Read Statement := do
  let _ ← Read.keywords? ["IF", "NOT", "EXISTS"]
  let name ← Read.path
  match ← Read.oneOf? ["LIKE", "ILIKE", "CLONE"] with
  | some _ =>
    let _ ← Read.path
  | none => pure ()
  let (columns, constraints) ← takeEntries
  let _ ← Read.keywords? ["WITHOUT", "ROWID"]
  skipTableOptions
  if ← Read.keywords? ["ON", "COMMIT"] then
    let _ ← Reading.required (Read.oneOf? ["DELETE", "PRESERVE", "DROP"])
    let _ ← Read.keyword? "ROWS"
  let _ ← Read.keyword? "STRICT"
  if ← Read.keyword? "AS" then query
  else if ← Read.atKeyword ["SELECT"] then query
  return .createTable (lastName name) columns constraints

/-! ## Other statements -/

def skipIfExists : Read Unit := do
  let _ ← Read.keywords? ["IF", "EXISTS"]

def skipIfNotExists : Read Unit := do
  let _ ← Read.keywords? ["IF", "NOT", "EXISTS"]

def takeIndex : Read Unit := do
  skipIfNotExists
  let _ ← Read.path
  let _ ← skipIndexKind
  Read.keyword "ON"
  let _ ← Read.path
  let _ ← takeIndexColumns

def takeView : Read Unit := do
  skipIfNotExists
  let _ ← Read.path
  Query.skipColumns
  Read.keyword "AS"
  query

def takeDatabase : Read Unit := do
  skipIfNotExists
  let _ ← Read.path
  skipTableOptions

def takeCreate : Read Statement := do
  let isReplacing ← Read.keywords? ["OR", "REPLACE"]
  let _ ← Read.oneOf? ["LOCAL", "GLOBAL"]
  let _ ← Read.oneOf? ["TEMP", "TEMPORARY"]
  if ← Read.keyword? "TABLE" then takeTable
  else if ← Read.keyword? "VIEW" then
    takeView
    return .other
  else if isReplacing then Reading.fail
  else if ← Read.keyword? "INDEX" then
    takeIndex
    return .other
  else if ← Read.keywords? ["UNIQUE", "INDEX"] then
    takeIndex
    return .other
  else if (← Read.oneOf? ["DATABASE", "SCHEMA"]).isSome then
    takeDatabase
    return .other
  else Reading.fail

def takeAssignment : Read Unit := do
  let _ ← Read.path
  Read.sign "="
  let _ ← expr

def takeInsert : Read Unit := do
  let _ ← Read.oneOf? ["LOW_PRIORITY", "DELAYED", "HIGH_PRIORITY"]
  let _ ← Read.keyword? "IGNORE"
  let _ ← Read.keyword? "INTO"
  let _ ← Read.keyword? "TABLE"
  let _ ← Read.path
  if ← Read.keyword? "SET" then
    let _ ← Read.commaSeparated takeAssignment
  else
    let isEmpty ← Read.sign? "("
    if isEmpty && !(← Read.sign? ")") then
      let _ ← Read.commaSeparated Read.ident
      Read.sign ")"
    query
  if ← Read.keywords? ["ON", "DUPLICATE", "KEY", "UPDATE"] then
    let _ ← Read.commaSeparated takeAssignment

def takeUpdate : Read Unit := do
  Query.takeTables expr query
  Read.keyword "SET"
  let _ ← Read.commaSeparated takeAssignment
  Query.skipWhere expr
  Query.skipOrder expr

def takeDelete : Read Unit := do
  Read.keyword "FROM"
  Query.takeTables expr query
  Query.skipWhere expr
  Query.skipOrder expr

def takeDrop : Read Unit := do
  let _ ← Read.keyword? "TEMPORARY"
  let _ ← Reading.required (Read.oneOf? ["TABLE", "VIEW", "INDEX", "DATABASE", "SCHEMA"])
  skipIfExists
  let _ ← Read.commaSeparated Read.path
  let _ ← Read.oneOf? ["CASCADE", "RESTRICT"]
  if ← Read.keyword? "ON" then
    let _ ← Read.path

/-- Passes over the place of a column. -/
def skipPlace : Read Unit := do
  if ← Read.keyword? "AFTER" then
    let _ ← Read.ident
  else
    let _ ← Read.keyword? "FIRST"

def takeChange : Read Unit := do
  if ← Read.keyword? "ADD" then
    match ← takeConstraint with
    | some _ => pure ()
    | none =>
      let _ ← Read.keyword? "COLUMN"
      skipIfNotExists
      let _ ← takeColumn
      skipPlace
  else if ← Read.keyword? "DROP" then
    if ← Read.keywords? ["PRIMARY", "KEY"] then pure ()
    else if ← Read.keywords? ["FOREIGN", "KEY"] then
      let _ ← Read.ident
    else
      let _ ← Read.oneOf? ["COLUMN", "CONSTRAINT", "INDEX"]
      skipIfExists
      let _ ← Read.ident
    let _ ← Read.oneOf? ["CASCADE", "RESTRICT"]
  else if ← Read.keyword? "MODIFY" then
    let _ ← Read.keyword? "COLUMN"
    let _ ← takeColumn
    skipPlace
  else if ← Read.keyword? "CHANGE" then
    let _ ← Read.keyword? "COLUMN"
    let _ ← Read.ident
    let _ ← takeColumn
    skipPlace
  else if ← Read.keyword? "RENAME" then
    if ← Read.keyword? "COLUMN" then
      let _ ← Read.ident
      Read.keyword "TO"
      let _ ← Read.ident
    else
      let _ ← Reading.required (Read.oneOf? ["TO", "AS"])
      let _ ← Read.path
  else if ← Read.keyword? "ALTER" then
    let _ ← Read.keyword? "COLUMN"
    let _ ← Read.ident
    if ← Read.keywords? ["SET", "DEFAULT"] then
      let _ ← expr
    else if ← Read.keywords? ["SET", "NOT", "NULL"] then pure ()
    else if ← Read.keywords? ["DROP", "NOT", "NULL"] then pure ()
    else Read.keywords ["DROP", "DEFAULT"]
  else if (← Read.oneOf? ["AUTO_INCREMENT", "ALGORITHM", "LOCK"]).isSome then
    let _ ← Read.sign? "="
    let _ ← expr
  else Reading.fail

def takeAlter : Read Unit := do
  Read.keyword "TABLE"
  skipIfExists
  let _ ← Read.path
  let _ ← Read.commaSeparated takeChange

def takeSet : Read Unit := do
  let _ ← Read.oneOf? ["SESSION", "GLOBAL", "LOCAL"]
  if ← Read.keyword? "NAMES" then
    let _ ← Read.literalText
    if ← Read.keyword? "COLLATE" then
      let _ ← Read.literalText
  else
    let _ ← Read.commaSeparated do
      let _ ← Read.path
      if !(← Read.sign? "=") && !(← Read.sign? ":=") && !(← Read.keyword? "TO") then Reading.fail
      let _ ← expr

/-- Reads a statement that ends or starts a transaction, after its first word. -/
def takeTransaction : Read Unit := do
  let _ ← Read.oneOf? ["TRANSACTION", "WORK"]

def take : Read Statement := do
  if ← Read.keyword? "CREATE" then return ← takeCreate
  if ← Expr.startsQuery then query
  else if ← Read.atSign "(" then query
  else if ← Read.keyword? "INSERT" then takeInsert
  else if ← Read.keyword? "REPLACE" then takeInsert
  else if ← Read.keyword? "UPDATE" then takeUpdate
  else if ← Read.keyword? "DELETE" then takeDelete
  else if ← Read.keyword? "DROP" then takeDrop
  else if ← Read.keyword? "ALTER" then takeAlter
  else if ← Read.keyword? "SET" then takeSet
  else if ← Read.keyword? "USE" then
    let _ ← Read.path
  else if ← Read.keyword? "TRUNCATE" then
    let _ ← Read.keyword? "TABLE"
    let _ ← Read.commaSeparated Read.path
  else if ← Read.keywords? ["START", "TRANSACTION"] then pure ()
  else if (← Read.oneOf? ["BEGIN", "COMMIT", "ROLLBACK"]).isSome then takeTransaction
  else if (← Read.oneOf? ["EXPLAIN", "DESCRIBE", "DESC"]).isSome then
    if ← Expr.startsQuery then query
    else
      let _ ← Read.keyword? "TABLE"
      let _ ← Read.path
  else if ← Read.keyword? "SHOW" then
    let _ ← Reading.required (Read.oneOf? ["TABLES", "DATABASES", "COLUMNS"])
    if (← Read.oneOf? ["FROM", "IN"]).isSome then
      let _ ← Read.path
  else if ← Read.keywords? ["LOCK", "TABLES"] then
    let _ ← Read.commaSeparated do
      let _ ← Read.path
      Reading.required (Read.oneOf? ["READ", "WRITE"])
  else Read.keywords ["UNLOCK", "TABLES"]
  return .other

/-- Reads statements with semicolons between them. Behind a statement, the word `END` ends the
reading, whatever follows. -/
def run : Nat → Bool → List Token → Option (List Statement)
  | 0, _, _ => none
  | fuel + 1, isOpen, ts =>
    match ts with
    | [] => some []
    | .sign ";" :: rest => run fuel false rest
    | t :: _ =>
      if isOpen then if Read.isKeyword "END" t then some [] else none
      else (take ts).bind fun (statement, rest) => (run fuel true rest).map (statement :: ·)

end Statement

/-- The statements of a text. -/
def statements? (text : String) : Option (List Statement) :=
  (tokens? text).bind fun ts => Statement.run (ts.length + 1) false ts

/-- The characters of a text that is spelled out are there without decoding it. -/
theorem statements?_ofList (cs : List Char) : statements? (String.ofList cs) =
    (Token.run (cs.length + 1) none cs).bind fun ts => Statement.run (ts.length + 1) false ts := by
  rw [statements?, tokens?, String.toList_ofList]

end Database
end Scaffold

/-
Tables from the text of a schema.
-/
import Scaffold.Database.Statement
import Scaffold.Database.Table
import Scaffold.Failure

namespace Scaffold
namespace Database

namespace Column

/-- Takes an option into account; of options that say different things the last one counts. -/
def apply (c : Column) : ColumnOption → Column
  | .notNull => { c with isNullable := false }
  | .nullable => { c with isNullable := true }
  | .default value => { c with defaultValue := some value.written }
  | .primaryKey => { c with isNullable := false }
  | .comment text => { c with comment := some text }
  | .autoIncrement => { c with isAutoIncrement := true }
  | .unique => c
  | .other => c

def ofDefinition (d : ColumnDefinition) : Column :=
  let dataType := d.type.written
  let start : Column := {
    name := d.name
    dataType := dataType
    isNullable := true
    defaultValue := none
    isAutoIncrement := false
    isUnsigned := Text.contains "UNSIGNED" (Text.uppercase dataType)
    enumValues := match d.type with
      | .enum members => some (members.map (·.1))
      | _ => none
    comment := none }
  d.options.foldl apply start

end Column

namespace ColumnDefinition

def isPrimaryKey (d : ColumnDefinition) : Bool :=
  d.options.any fun
    | .primaryKey => true
    | _ => false

def isUnique (d : ColumnDefinition) : Bool :=
  d.options.any fun
    | .unique => true
    | _ => false

end ColumnDefinition

namespace Table

/-- The table with the columns alone. The last column that is called the primary key is it. -/
def ofColumns (name : String) (columns : List ColumnDefinition) : Table where
  name := name
  columns := columns.map Column.ofDefinition
  indexes := (columns.filter (·.isUnique)).map fun d => ⟨d.name ++ "_unique", [d.name], true⟩
  foreignKeys := []
  primaryKey := ((columns.filter (·.isPrimaryKey)).getLast?.map (·.name)).toList

/-- Marks the first column of a name as one that always has a value. -/
def requireColumn (name : String) : List Column → List Column
  | [] => []
  | c :: rest =>
    if c.name = name then { c with isNullable := false } :: rest
    else c :: requireColumn name rest

/-- Takes a constraint into account. An index without a name is named after its first column. -/
def apply (t : Table) : Constraint → Table
  | .primaryKey columns =>
    { t with
      primaryKey := columns
      columns := columns.foldl (fun cs name => requireColumn name cs) t.columns }
  | .unique name columns =>
    { t with indexes := t.indexes ++ [⟨name.getD (columns.headD "" ++ "_unique"), columns, true⟩] }
  | .index name columns =>
    { t with indexes := t.indexes ++ [⟨name.getD ("idx_" ++ columns.headD ""), columns, false⟩] }
  | .foreignKey columns table referenced =>
    { t with foreignKeys := t.foreignKeys ++
        (columns.zip referenced).map fun (column, other) => ⟨column, table, other⟩ }
  | .other => t

/-- The table that a statement creates, if it is such a statement. -/
def ofStatement? : Statement → Option Table
  | .createTable name columns constraints =>
    some (constraints.foldl apply (ofColumns name columns))
  | .other => none

end Table

def tables? (text : String) : Option (List Table) :=
  (statements? text).map (·.filterMap Table.ofStatement?)

def readTables (text path : String) : Except Failure (List Table) :=
  match tables? text with
  | some tables => .ok tables
  | none => .error ⟨path, .invalidSql⟩

end Database
end Scaffold

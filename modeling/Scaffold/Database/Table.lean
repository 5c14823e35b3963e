/-
Tables as a schema declares them, and the mapping model they mean: singular entity names, property
names in Pascal case, canonical types, and navigations named after foreign key columns.
-/
import Scaffold.Mapping.Basic
import Scaffold.Target.Naming
import Scaffold.Text.Natural

namespace Scaffold
namespace Database

structure Column where
  name : String
  /-- The data type in normal spelling, such as `VARCHAR(255)`. -/
  dataType : String
  isNullable : Bool
  defaultValue : Option String
  isAutoIncrement : Bool
  isUnsigned : Bool
  enumValues : Option (List String)
  comment : Option String
deriving DecidableEq, Repr

structure Index where
  name : String
  columns : List String
  isUnique : Bool
deriving DecidableEq, Repr

/-- One column of a foreign key and the column it refers to. -/
structure ForeignKey where
  column : String
  table : String
  referenced : String
deriving DecidableEq, Repr

structure Table where
  name : String
  columns : List Column
  /-- The indexes without the primary key. -/
  indexes : List Index
  foreignKeys : List ForeignKey
  primaryKey : List String
deriving DecidableEq, Repr

def entityName (table : String) : String :=
  Text.pascalCase (Text.singularize table)

/-- Data types of true or false: by name, or integers and bits of width one. -/
def isBooleanType (small : String) : Bool :=
  small == "bool" || small == "boolean" ||
    ((Text.startsWith "tinyint" small || Text.startsWith "bit" small) &&
      Text.contains "(1)" small)

/-- The canonical type of a data type in small letters. The first rule that fits decides. -/
def canonicalOf (small : String) (isUnsigned : Bool) : String :=
  let starts := (Text.startsWith · small)
  if isBooleanType small then "bool"
  else if starts "tinyint" then if isUnsigned then "byte" else "sbyte"
  else if starts "smallint" then if isUnsigned then "ushort" else "short"
  else if starts "mediumint" || starts "int" then if isUnsigned then "uint" else "int"
  else if starts "bigint" then if isUnsigned then "ulong" else "long"
  else if starts "float" then "float"
  else if starts "double" || starts "real" then "double"
  else if starts "decimal" || starts "numeric" then "decimal"
  else if starts "binary" || starts "varbinary" || Text.contains "blob" small || starts "bit" then
    "List<byte>"
  else if small == "date" then "DateOnly"
  else if starts "datetime" || starts "timestamp" then "DateTime"
  else if small == "time" then "TimeOnly"
  else if small == "json" then "object"
  else "string"

def canonicalType (c : Column) : String :=
  canonicalOf (Text.lowercase c.dataType) c.isUnsigned

def charLength? (dataType : String) : Option Nat :=
  let small := Text.lowercase dataType
  if Text.startsWith "char" small || Text.startsWith "varchar" small then
    (Text.cutAt? ['('] small.toList).bind fun (_, rest) =>
      (Text.cutAt? [')'] rest).bind fun (length, _) =>
        Text.natural32? (Text.trim (String.ofList length))
  else none

def columnMapping (entity : String) (c : Column) : ColumnMapping :=
  let enumType := c.enumValues.map fun _ => enumName entity c.name
  { property := Text.pascalCase c.name
    column := c.name
    typeText := enumType.getD (canonicalType c)
    isNullable := c.isNullable
    maxLength := charLength? c.dataType
    defaultValue := c.defaultValue
    comment := c.comment
    isGenerated := c.isAutoIncrement
    enumType := enumType
    enumValues := c.enumValues.getD [] }

def foreignKeyMapping (t : Table) (k : ForeignKey) : ForeignKeyMapping where
  properties := [Text.pascalCase k.column]
  principal := entityName k.table
  principalKeys := [Text.pascalCase k.referenced]
  navigation := none
  inverse := none
  isRequired := (t.columns.find? (·.name == k.column)).any (!·.isNullable)

def Table.mapping (t : Table) : EntityMapping where
  name := entityName t.name
  table := t.name
  comment := none
  columns := t.columns.map (columnMapping (entityName t.name))
  keys := t.primaryKey.map Text.pascalCase
  indexes := t.indexes.map fun i => ⟨i.name, i.columns.map Text.pascalCase, i.isUnique⟩
  foreignKeys := t.foreignKeys.map (foreignKeyMapping t)

/-- The name of the navigation of a foreign key: its property without `Id`, or its principal. -/
def navigationName (property principal : String) : String :=
  match Text.dropBack? "Id".toList property.toList with
  | some (c :: stem) => String.ofList (c :: stem)
  | _ => principal

/-- Names both ends of a foreign key, unless a column has the name already. With several keys to
one principal, each collection is named after its key too. -/
def nameNavigation (e : EntityMapping) (k : ForeignKeyMapping) : ForeignKeyMapping :=
  match k.properties with
  | [] => k
  | property :: _ =>
    let navigation := navigationName property k.principal
    if e.columns.any (·.property == navigation) then k
    else
      let plural := Text.pluralize e.name
      let isShared := (e.foreignKeys.filter (·.principal == k.principal)).length > 1
      { k with
        navigation := some navigation
        inverse := some (if isShared then navigation ++ plural else plural) }

def nameNavigations (e : EntityMapping) : EntityMapping :=
  { e with foreignKeys := e.foreignKeys.map (nameNavigation e) }

def mappingModel (tables : List Table) : MappingModel :=
  ⟨tables.map fun t => nameNavigations t.mapping⟩

end Database
end Scaffold

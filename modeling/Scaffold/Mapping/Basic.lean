/-
Mapping models: which table and columns each entity is kept in, and which foreign keys lead from
a dependent entity to its principal.
-/

namespace Scaffold

/-- A scalar property and its column. -/
structure ColumnMapping where
  property : String
  column : String
  /-- The canonical type as text. -/
  typeText : String
  isNullable : Bool
  maxLength : Option Nat
  defaultValue : Option String
  comment : Option String
  /-- The database gives the value. -/
  isGenerated : Bool
  enumType : Option String
  enumValues : List String
deriving DecidableEq, Repr

structure IndexMapping where
  name : String
  properties : List String
  isUnique : Bool
deriving DecidableEq, Repr

/-- A foreign key of a dependent entity. -/
structure ForeignKeyMapping where
  /-- The dependent properties that hold the key. -/
  properties : List String
  /-- The name of the principal entity. -/
  principal : String
  principalKeys : List String
  /-- The navigation from the dependent to the principal. -/
  navigation : Option String
  /-- The collection of the principal that holds the dependents. -/
  inverse : Option String
  isRequired : Bool
deriving DecidableEq, Repr

structure EntityMapping where
  name : String
  table : String
  comment : Option String
  columns : List ColumnMapping
  /-- The key properties in key order. -/
  keys : List String
  indexes : List IndexMapping
  foreignKeys : List ForeignKeyMapping
deriving DecidableEq, Repr

structure MappingModel where
  entities : List EntityMapping
deriving DecidableEq, Repr

namespace EntityMapping

def column? (e : EntityMapping) (property : String) : Option ColumnMapping :=
  e.columns.find? (·.property == property)

def refersTo (e : EntityMapping) (principal : String) : Bool :=
  e.foreignKeys.any (·.principal == principal)

/-- Whether the entity does nothing but join two others: it has two foreign keys, and its own key
consists of their properties. -/
def isJoinTable (e : EntityMapping) : Bool :=
  e.foreignKeys.length == 2 && !e.keys.isEmpty &&
    e.keys.all fun k => e.foreignKeys.any (·.properties.contains k)

/-- The foreign key behind a navigation: the one that names it, else the only unnamed one to the
same principal, else the one whose property is named after it. -/
def foreignKeyFor? (e : EntityMapping) (navigation principal : String) :
    Option ForeignKeyMapping :=
  match e.foreignKeys.find? (·.navigation == some navigation) with
  | some key => some key
  | none =>
    match e.foreignKeys.filter fun k => k.principal == principal && k.navigation.isNone with
    | [only] => some only
    | candidates => candidates.find? (·.properties.head? == some (navigation ++ "Id"))

end EntityMapping

namespace MappingModel

def entity? (m : MappingModel) (name : String) : Option EntityMapping :=
  m.entities.find? (·.name == name)

def contains (m : MappingModel) (name : String) : Bool :=
  (m.entity? name).isSome

/-- The first other entity with foreign keys to both of the given ones. -/
def joinEntity? (m : MappingModel) (left right : String) : Option EntityMapping :=
  m.entities.find? fun e =>
    e.name != left && e.name != right && e.refersTo left && e.refersTo right

end MappingModel
end Scaffold

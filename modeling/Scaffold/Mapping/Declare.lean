/-
Declarations made from a mapping model alone: a class for every entity, an enum for every enum
column, a reference for every foreign key and a collection on its other end.
-/
import Scaffold.Declaration.Basic
import Scaffold.Mapping.Basic
import Scaffold.Text.Plural

namespace Scaffold
namespace MappingModel

/-- The type text with a null mark where null is allowed. -/
def markedType (typeText : String) (isNullable : Bool) : String :=
  if isNullable then typeText ++ "?" else typeText

/-- The attributes that a column gives to its property. -/
def columnAttributes (e : EntityMapping) (c : ColumnMapping) : List Attribute :=
  (if e.keys.contains c.property then [Attribute.plain "Key" []] else []) ++
  (if !c.isNullable && !c.isGenerated && c.defaultValue.isNone then
    [Attribute.plain "Required" []] else []) ++
  (match c.maxLength with
    | some n => [Attribute.plain "MaxLength" [toString n]]
    | none => [])

def columnProperty (e : EntityMapping) (c : ColumnMapping) : PropertyDeclaration :=
  { PropertyDeclaration.plain c.property (markedType c.typeText c.isNullable) with
    comment := c.comment
    defaultValue := c.defaultValue
    attributes := columnAttributes e c }

/-- The reference that a foreign key gives to the dependent, if its navigation has a name. -/
def referenceProperty? (k : ForeignKeyMapping) : Option PropertyDeclaration :=
  k.navigation.map fun name =>
    { PropertyDeclaration.plain name (markedType k.principal (!k.isRequired)) with
      attributes := match k.properties with
        | column :: _ => [Attribute.plain "ForeignKey" [column]]
        | [] => [] }

def classOf (namespaceName : String) (e : EntityMapping) : Declaration :=
  { Declaration.plain e.name namespaceName with
    comment := e.comment
    properties := e.columns.map (columnProperty e) ++ e.foreignKeys.filterMap referenceProperty? }

/-- The enum of a column, if it has one. -/
def enumOf? (namespaceName : String) (c : ColumnMapping) : Option Declaration :=
  c.enumType.map fun name =>
    { Declaration.plain name namespaceName with isEnum := true, members := c.enumValues }

/-- The enums of all columns; of several with one name the first. -/
def enums (namespaceName : String) (m : MappingModel) : List Declaration :=
  let all := (m.entities.flatMap (·.columns)).filterMap (enumOf? namespaceName)
  all.foldl (fun seen d => if seen.any (·.name == d.name) then seen else seen ++ [d]) []

/-- Adds a collection to a class that has no property of that name. -/
def addCollectionTo (name element : String) (d : Declaration) : Declaration :=
  if d.properties.all (·.name != name) then
    { d with
      properties := d.properties ++ [PropertyDeclaration.plain name ("List<" ++ element ++ ">")] }
  else d

/-- Adds a collection to the first class with the owner's name. -/
def addCollection (owner name element : String) : List Declaration → List Declaration
  | [] => []
  | d :: rest =>
    if d.name = owner then addCollectionTo name element d :: rest
    else d :: addCollection owner name element rest

/-- The collections that the foreign keys of an entity give to their principals. The principals of
a join table get collections of each other. -/
def addCollections (classes : List Declaration) (e : EntityMapping) : List Declaration :=
  match e.isJoinTable, e.foreignKeys with
  | true, [first, second] =>
    let (left, right) := (first.principal, second.principal)
    addCollection right (Text.pluralize left) left
      (addCollection left (Text.pluralize right) right classes)
  | _, keys =>
    keys.foldl (fun classes k => match k.inverse with
      | some name => addCollection k.principal name e.name classes
      | none => classes) classes

/-- The declarations of every entity of the model, and after them the enums. -/
def declarations (m : MappingModel) (namespaceName : String) : List Declaration :=
  m.entities.foldl addCollections (m.entities.map (classOf namespaceName)) ++
    enums namespaceName m

end MappingModel
end Scaffold

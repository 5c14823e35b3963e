/-
Entities: named records of properties, with navigations to other entities.
-/
import Scaffold.Failure
import Scaffold.TypeExpr.Shape

namespace Scaffold

/-- One field of an entity. The type is held as text with marks beside it; the enum mark of a list
or a map is about its elements. -/
structure Property where
  name : String
  typeText : String
  isList : Bool
  isDictionary : Bool
  isEnum : Bool
  isNullable : Bool
  isRequired : Bool
  isNavigation : Bool
  isComplex : Bool
  isKey : Bool
  isIndexed : Bool
  maxLength : Option Nat
  minLength : Option Nat
  defaultValue : Option String
  summary : Option String
  xml : Option String
deriving DecidableEq, Repr

namespace Property

/-- A scalar property without further marks. -/
def scalar (name typeText : String) : Property where
  name := name
  typeText := typeText
  isList := false
  isDictionary := false
  isEnum := false
  isNullable := false
  isRequired := false
  isNavigation := false
  isComplex := false
  isKey := false
  isIndexed := false
  maxLength := none
  minLength := none
  defaultValue := none
  summary := none
  xml := none

/-- A property whose marks say what can be seen from its type. -/
def ofType (name : String) (type : TypeExpr) : Property :=
  { scalar name type.canonicalName with
    isList := type.isList
    isDictionary := type.isDictionary
    isNullable := type.isNullable
    isEnum := type.innermost.isEnum }

/-- The type that the text denotes, without the marks. -/
def textType (p : Property) : TypeExpr :=
  TypeExpr.ofText p.typeText

def marks (p : Property) : TypeExpr.Marks :=
  ⟨p.isEnum, p.isList, p.isNullable⟩

/-- The type that the text and the marks mean together. -/
def fullType (p : Property) : TypeExpr :=
  TypeExpr.describe p.typeText p.marks

/-- The name of the type inside lists and maps. -/
def elementName (p : Property) : String :=
  p.textType.innermost.canonicalName

/-- Whether the property holds many values. -/
def isCollection (p : Property) : Bool :=
  p.isList || p.isDictionary

def isBool (p : Property) : Bool :=
  !p.isCollection && p.textType.name == Primitive.bool.name

def isString (p : Property) : Bool :=
  !p.isCollection && p.textType.name == Primitive.string.name

/-- Whether the property is offered as a filter: a scalar that is required, an enum, a flag or
indexed, and not a text of `threshold` characters or more. -/
def isFilterable (p : Property) (threshold : Nat) : Bool :=
  (p.isRequired || p.isEnum || p.isBool || p.isIndexed) &&
    !(p.isCollection || p.isNavigation || p.isComplex) &&
    p.maxLength.all (· < threshold)

end Property

/-- A relationship from one entity to another. -/
structure Navigation where
  name : String
  typeName : String
  foreignKey : Option String
  isRequired : Bool
  isCollection : Bool
  /-- The relationship goes through a join entity. -/
  isSkip : Bool
deriving DecidableEq, Repr

structure Entity where
  name : String
  namespaceName : String
  moduleName : Option String
  /-- The file the entity was read from, for messages. -/
  filePath : Option String
  comment : Option String
  properties : List Property
  navigations : List Navigation
deriving DecidableEq, Repr

namespace Entity

def empty (name namespaceName : String) : Entity :=
  ⟨name, namespaceName, none, none, none, [], []⟩

def property? (e : Entity) (name : String) : Option Property :=
  e.properties.find? (·.name == name)

def navigation? (e : Entity) (name : String) : Option Navigation :=
  e.navigations.find? (·.name == name)

/-- A failure of this entity, at its file if it has one. -/
def failure (e : Entity) (cause : Cause) : Failure :=
  ⟨e.filePath.getD e.name, cause⟩

/-- Appends a property; a second one of the same name is refused. -/
def addProperty (e : Entity) (p : Property) : Except Failure Entity :=
  if (e.property? p.name).isSome then .error (e.failure (.duplicatePropertyOf p.name e.name))
  else .ok { e with properties := e.properties ++ [p] }

/-- Changes the first property with the given name. -/
def modifyProperty (e : Entity) (name : String) (f : Property → Property) : Entity :=
  let rec go : List Property → List Property
    | [] => []
    | p :: rest => if p.name = name then f p :: rest else p :: go rest
  { e with properties := go e.properties }

/-- Navigations to one entity that has to be there; their foreign keys become scalars of the
transfer objects. -/
def requiredNavigations (e : Entity) : List Navigation :=
  e.navigations.filter fun n => n.isRequired && !n.isCollection

def navigationNames (e : Entity) : List String :=
  e.navigations.map (·.name)

/-- The key: a property marked as such, else one named `Id`. -/
def key? (e : Entity) : Option Property :=
  (e.properties.find? (·.isKey)).or (e.property? "Id")

/-- The first property, in order, that breaks a rule of the model, given the names before it. -/
def firstFault? (seen : List String) : List Property → Option Cause
  | [] => none
  | p :: rest =>
    if seen.contains p.name then some (.duplicateProperty p.name)
    else if p.isList && p.isDictionary then some (.listAndDictionary p.name)
    else if p.isNavigation && p.isEnum then some (.navigationAndEnum p.name)
    else firstFault? (p.name :: seen) rest

/-- Checks that the name is visible, that property names are distinct, and that no property is of
two kinds at once. -/
def validate (e : Entity) : Except Failure Unit :=
  if Text.isBlankText e.name then .error (e.failure .emptyEntityName)
  else match firstFault? [] e.properties with
    | some cause => .error (e.failure cause)
    | none => .ok ()

end Entity
end Scaffold

/-
Managers: the data access of an entity in C#.
-/
import Scaffold.Dto
import Scaffold.Generate.File
import Scaffold.Template.Library

namespace Scaffold

def managerName (entity : String) : String :=
  entity ++ "Manager"

namespace Manager

def namespaceOf (naming : Naming) (root : String) (e : Entity) : String :=
  joinNamespace [root, naming.managerNamespace, e.moduleName.getD ""]

/-- The namespace of the transfer objects that a manager takes and gives. -/
def dtoNamespace (naming : Naming) (root : String) (e : Entity) : String :=
  joinNamespace [root, naming.dtoNamespace, e.moduleName.getD "", e.name ++ "Dtos"]

/-- What selects a row by its key. -/
def keyPredicate (naming : Naming) (e : Entity) : String :=
  match e.key? with
  | some key => "q." ++ Target.csharp.memberName key.name ++ " == id"
  | none => "EF.Property<" ++ e.keyType naming.keyType ++ ">(q, \"Id\") == id"

/-- The copy of one property from a transfer object to the entity. -/
structure Assignment where
  name : String
  value : String
  /-- The entity has no member of the name, so the value is kept beside it. -/
  isShadow : Bool
deriving DecidableEq, Repr

/-- Whether the property is a value in C#, of which null needs a wrapper. -/
def isValue (p : Property) : Bool :=
  !p.isCollection && (p.isEnum || p.textType.isValueType)

def assignment (e : Entity) (kind : DtoKind) (p : Property) : Assignment :=
  let name := Target.csharp.memberName p.name
  { name := name
    value := "dto." ++ name ++ (if kind = .update && isValue p then ".Value" else "")
    isShadow := (e.property? p.name).isNone }

def assignments (config : Config) (e : Entity) (kind : DtoKind) : List Assignment :=
  (e.dtoProperties kind config).map (assignment e kind)

def memberNames (config : Config) (e : Entity) (kind : DtoKind) : List String :=
  (e.dtoProperties kind config).map fun p => Target.csharp.memberName p.name

/-- What selects rows by one property of a filter. -/
def filterPredicate (e : Entity) (p : Property) : String :=
  let name := Target.csharp.memberName p.name
  if (e.property? p.name).isNone then
    "EF.Property<" ++ p.valueType ++ ">(q, \"" ++ p.name ++ "\") == filter." ++ name
  else if p.isString then "q." ++ name ++ ".Contains(filter." ++ name ++ ")"
  else "q." ++ name ++ " == filter." ++ name

/-- The indexed scalars, by which rows are looked up. -/
def lookups (e : Entity) : List Property :=
  e.properties.filter fun p =>
    p.isIndexed && !p.isKey && !p.isCollection && !p.isNavigation && !p.isComplex

def assignmentData (a : Assignment) : Json :=
  .object [("name", .string a.name), ("value", .string a.value), ("shadow", .bool a.isShadow)]

def filterData (e : Entity) (p : Property) : Json :=
  .object [("name", .string (Target.csharp.memberName p.name)),
    ("predicate", .string (filterPredicate e p))]

def lookupData (p : Property) : Json :=
  let name := Target.csharp.memberName p.name
  let parameter := Target.csharp.parameterName p.name
  .object [
    ("name", .string name), ("parameter", .string parameter), ("type_name", .string p.valueType),
    ("predicate", .string ("q." ++ name ++ " == " ++ parameter))]

def imports (naming : Naming) (root : String) (e : Entity) : List String :=
  usings ["System", "System.Collections.Generic", "System.Linq", "System.Threading.Tasks",
    "Microsoft.EntityFrameworkCore", e.namespaceName, dtoNamespace naming root e]

def data (config : Config) (root : String) (e : Entity) : Json :=
  let naming := config.naming
  let dto := fun kind : DtoKind => Json.string (kind.typeName e.name)
  .object [
    ("namespace", .string (namespaceOf naming root e)), ("imports", .ofTexts (imports naming root e)),
    ("entity_name", .string e.name), ("manager_name", .string (managerName e.name)),
    ("summary", .string (oneLine e.comment)), ("key_type", .string (e.keyType naming.keyType)),
    ("key_predicate", .string (keyPredicate naming e)),
    ("add_dto", dto .add), ("update_dto", dto .update), ("detail_dto", dto .detail),
    ("item_dto", dto .item), ("filter_dto", dto .filter),
    ("add_assignments", .array ((assignments config e .add).map assignmentData)),
    ("update_assignments", .array ((assignments config e .update).map assignmentData)),
    ("detail_fields", .ofTexts (memberNames config e .detail)),
    ("item_fields", .ofTexts (memberNames config e .item)),
    ("filters", .array ((e.dtoProperties .filter config).map (filterData e))),
    ("lookups", .array ((lookups e).map lookupData)),
    ("includes", .ofTexts (e.navigationNames.map Target.csharp.memberName))]

def directory (naming : Naming) (e : Entity) : String :=
  match e.module? with
  | some module => Path.join naming.managerDir module
  | none => naming.managerDir

def fileName (e : Entity) : String :=
  managerName e.name ++ ".cs"

def files (library : Library) (config : Config) (e : Entity) :
    Except Fault (List GeneratedFile) := do
  let root ← config.naming.rootFor e
  let text ← library.render "manager.cs.j2" (data config root e)
  return [.inDir (directory config.naming e) (fileName e) text]

end Manager
end Scaffold

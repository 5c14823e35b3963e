/-
Controllers in C#: the endpoints of an entity over its manager, and the endpoints of each tag of
an interface as stubs.
-/
import Scaffold.Api.Document
import Scaffold.Generate.Manager

namespace Scaffold

def controllerName (subject : String) : String :=
  subject ++ "Controller"

namespace Controller

/-! ## Entities -/

/-- A manager that a controller is given. -/
structure Dependency where
  typeName : String
  fieldName : String
  parameter : String
deriving DecidableEq, Repr

/-- A related entity that has to be there before an entity is added. -/
structure Check where
  /-- The member of the transfer object that holds the foreign key. -/
  member : String
  entity : String
  managerField : String
deriving DecidableEq, Repr

def ownDependency (e : Entity) : Dependency :=
  ⟨managerName e.name, "_manager", "manager"⟩

/-- The manager of an entity that `e` refers to. -/
def dependencyOn (e : Entity) (other : String) : Dependency :=
  if other = e.name then ownDependency e
  else
    let parameter := Text.camelCase other ++ "Manager"
    ⟨managerName other, "_" ++ parameter, parameter⟩

/-- The required navigations whose foreign keys are given when an entity is added, with those
keys. -/
def checked (config : Config) (e : Entity) : List (Navigation × String) :=
  let given := (e.dtoProperties .add config).map (·.name)
  (e.requiredNavigations.map fun n => (n, n.foreignKey.getD (n.name ++ "Id"))).filter fun (_, key) =>
    given.contains key

def checks (config : Config) (e : Entity) : List Check :=
  (checked config e).map fun (n, key) =>
    ⟨Target.csharp.memberName key, n.typeName, (dependencyOn e n.typeName).fieldName⟩

/-- The managers a controller needs, each once: its own, and those of related entities. -/
def dependencies (config : Config) (e : Entity) : List Dependency :=
  (checked config e).foldl (fun ds (n, _) =>
    let d := dependencyOn e n.typeName
    if ds.contains d then ds else ds ++ [d]) [ownDependency e]

def namespaceOf (naming : Naming) (root : String) (e : Entity) : String :=
  joinNamespace [root, naming.controllerNamespace, e.moduleName.getD ""]

def imports (naming : Naming) (root : String) (e : Entity) : List String :=
  usings ["System", "System.Threading.Tasks", "Microsoft.AspNetCore.Mvc",
    Manager.namespaceOf naming root e, Manager.dtoNamespace naming root e]

def data (config : Config) (root : String) (e : Entity) : Json :=
  let naming := config.naming
  let dto := fun kind : DtoKind => Json.string (kind.typeName e.name)
  let needed := dependencies config e
  .object [
    ("namespace", .string (namespaceOf naming root e)), ("imports", .ofTexts (imports naming root e)),
    ("entity_name", .string e.name), ("controller_name", .string (controllerName e.name)),
    ("summary", .string (oneLine e.comment)), ("manager_name", .string (managerName e.name)),
    ("key_type", .string (e.keyType naming.keyType)), ("add_dto", dto .add),
    ("update_dto", dto .update), ("filter_dto", dto .filter),
    ("constructor_parameters", .string
      (Text.join ", " (needed.map fun d => d.typeName ++ " " ++ d.parameter))),
    ("dependencies", .array (needed.map fun d => .object [
      ("type_name", .string d.typeName), ("field", .string d.fieldName),
      ("parameter", .string d.parameter)])),
    ("checks", .array ((checks config e).map fun c => .object [
      ("field", .string c.member), ("entity_name", .string c.entity),
      ("manager_field", .string c.managerField)]))]

def directory (naming : Naming) (e : Entity) : String :=
  match e.module? with
  | some module => Path.join naming.controllerDir module
  | none => naming.controllerDir

def fileName (subject : String) : String :=
  controllerName subject ++ ".cs"

def files (library : Library) (config : Config) (e : Entity) :
    Except Fault (List GeneratedFile) := do
  let root ← config.naming.rootFor e
  let text ← library.render "controller.cs.j2" (data config root e)
  return [.inDir (directory config.naming e) (fileName e.name) text]

/-! ## Tags -/

/-- The attribute of a parameter that says where it is carried. -/
def sourceAttribute : Api.Location → String
  | .path => "FromRoute"
  | .query => "FromQuery"
  | .header => "FromHeader"

def parameterText (p : Api.Parameter) : String :=
  let type := p.type.withNullable (p.type.isNullable || !p.isRequired)
  "[" ++ sourceAttribute p.location ++ "(Name = \"" ++ p.name ++ "\")] " ++
    Target.csharp.render type ++ " " ++ Target.csharp.parameterName p.name

def bodyText (b : Api.Body) : String :=
  if b.isMultipart then "[FromForm] IFormCollection form"
  else "[FromBody] " ++ Target.csharp.render b.type ++ " body"

/-- The parameters of an operation in the order they are listed in: by where they are carried. -/
def orderedParameters (op : Api.Operation) : List Api.Parameter :=
  [Api.Location.path, .query, .header].flatMap op.parametersIn

def actionParameters (op : Api.Operation) : String :=
  Text.join ", " ((orderedParameters op).map parameterText ++ (op.body.map bodyText).toList)

def actionName (op : Api.Operation) : String :=
  Text.pascalCase (operationMethodName op.operationId op.method op.path)

def actionData (op : Api.Operation) : Json :=
  let returnType := match op.response with
    | some type => "ActionResult<" ++ Target.csharp.render type ++ ">"
    | none => "IActionResult"
  .object [
    ("name", .string (actionName op)), ("summary", .string (oneLine op.summary)),
    ("http_attribute", .string ("Http" ++ Text.pascalCase (Text.lowercase op.method))),
    ("path", .string op.path), ("return_type", .string returnType),
    ("parameters", .string (actionParameters op))]

def tagData (naming : Naming) (root : String) (d : Api.Document) (tag : String) : Json :=
  .object [
    ("namespace", .string (joinNamespace [root, naming.controllerNamespace])),
    ("imports", .ofTexts (usings ["System", "System.Collections.Generic",
      "System.Threading.Tasks", "Microsoft.AspNetCore.Http", "Microsoft.AspNetCore.Mvc",
      joinNamespace [root, naming.dtoNamespace]])),
    ("controller_name", .string (controllerName (Text.pascalCase tag))), ("tag", .string tag),
    ("actions", .array ((d.operationsFor tag).map actionData))]

def tagFile (library : Library) (naming : Naming) (root : String) (d : Api.Document)
    (tag : String) : Except Fault GeneratedFile := do
  let text ← library.render "api_controller.cs.j2" (tagData naming root d tag)
  return .inDir naming.controllerDir (fileName (Text.pascalCase tag)) text

def documentFiles (library : Library) (config : Config) (d : Api.Document) :
    Except Fault (List GeneratedFile) := do
  let root ← config.naming.rootOr (Text.pascalCase d.title)
  d.tags.mapM (tagFile library config.naming root d)

end Controller
end Scaffold

/-
Clients of an interface: a service for each tag, with a method for each operation, and a model for
each named type.
-/
import Scaffold.Api.Document
import Scaffold.Generate.Dto

namespace Scaffold
namespace Client

/-! ## Operations -/

def methodName (target : Target) (op : Api.Operation) : String :=
  let base := operationMethodName op.operationId op.method op.path
  match target with
  | .csharp => Text.pascalCase base ++ "Async"
  | _ => base

/-- One parameter of a method: the variable, and its type where the language does not fix it. -/
structure Argument where
  variableName : String
  /-- None for a form with several parts. -/
  type : Option TypeExpr
  isRequired : Bool
deriving DecidableEq

/-- The class of forms with several parts. -/
def formType : Target → String
  | .csharp => "MultipartFormDataContent"
  | _ => "FormData"

namespace Argument

/-- The declaration in the target language; what may be left out has null for its default. -/
def written (target : Target) (a : Argument) : String :=
  let typeText := match a.type with
    | some type => target.render (if a.isRequired then type else type.withNullable true)
    | none => formType target
  match target with
  | .csharp => typeText ++ " " ++ a.variableName ++ (if a.isRequired then "" else " = null")
  | _ => a.variableName ++ (if a.isRequired then ": " else "?: ") ++ typeText

def ofParameter (target : Target) (p : Api.Parameter) : Argument :=
  ⟨target.parameterName p.name, some p.type, p.isRequired || p.location = .path⟩

def ofBody (b : Api.Body) : Argument :=
  if b.isMultipart then ⟨"form", none, true⟩ else ⟨"body", some b.type, b.isRequired⟩

end Argument

/-- The arguments of an operation: by where they are carried, the body last, and among all of
them the required ones first. -/
def arguments (target : Target) (op : Api.Operation) : List Argument :=
  let carried := [Api.Location.path, .query, .header].flatMap op.parametersIn
  let all := carried.map (Argument.ofParameter target) ++ (op.body.map Argument.ofBody).toList
  all.filter (·.isRequired) ++ all.filter (!·.isRequired)

/-- The value of a path parameter, put into the text of the path. -/
def splice (target : Target) (name : List Char) : List Char :=
  let value := target.parameterName (String.ofList name)
  match target with
  | .csharp => ("\x7bUri.EscapeDataString(" ++ value ++ ".ToString()!)\x7d").toList
  | _ => ("$\x7bencodeURIComponent(String(" ++ value ++ "))\x7d").toList

/-- A path with its parameters, which stand in braces, replaced by their values. A brace that is
not closed stands for itself, and so does all behind it. -/
def spliced (target : Target) (path : List Char) : List Char :=
  match _hb : Text.cutAt? ['\x7b'] path with
  | none => path
  | some (before, rest) =>
    match _ha : Text.cutAt? ['\x7d'] rest with
    | none => path
    | some (name, after) =>
      before ++ splice target name ++ spliced target after
termination_by path.length
decreasing_by
  have h := Text.cutAt?_length _hb
  have k := Text.cutAt?_length _ha
  simp only [List.length_cons, List.length_nil] at h k
  omega

def pathExpression (target : Target) (op : Api.Operation) : String :=
  String.ofList (spliced target op.path.toList)

/-- How the body is sent; empty if there is none. -/
def bodyKind (op : Api.Operation) : String :=
  match op.body with
  | some b => if b.isMultipart then "multipart" else "json"
  | none => ""

def valuesData (target : Target) (ps : List Api.Parameter) : Json :=
  .array (ps.map fun p => .object
    [("name", .string p.name), ("variable", .string (target.parameterName p.name))])

def operationData (target : Target) (op : Api.Operation) : Json :=
  .object [
    ("name", .string (methodName target op)), ("summary", .string (oneLine op.summary)),
    ("method", .string op.method),
    ("parameters", .string (Text.join ", " ((arguments target op).map (·.written target)))),
    ("return_type", .string ((op.response.map target.render).getD "")),
    ("path", .string (pathExpression target op)),
    ("query", valuesData target (op.parametersIn .query)),
    ("headers", valuesData target (op.parametersIn .header)),
    ("body_kind", .string (bodyKind op))]

/-! ## Services -/

def servicesDir (target : Target) (naming : Naming) : String :=
  Path.join naming.clientDir (match target with
    | .csharp => "Services"
    | _ => "services")

def modelsDir (target : Target) (naming : Naming) : String :=
  Path.join naming.clientDir (match target with
    | .csharp => "Models"
    | _ => "models")

def namespaceOf (naming : Naming) (root part : String) : String :=
  joinNamespace [root, naming.clientNamespace, part]

def serviceName (tag : String) : String :=
  Text.pascalCase tag ++ "Service"

/-- The types that the operations of a tag refer to, in order. -/
def serviceReferences (ops : List Api.Operation) : List String :=
  NameSet.ofList (TypeExpr.referencesIn (ops.flatMap (·.signatureTypes)))

def serviceImports (target : Target) (naming : Naming) (root : String)
    (ops : List Api.Operation) : List String :=
  match target with
  | .csharp => usings ["System", "System.Collections.Generic", "System.Net.Http",
      "System.Net.Http.Json", "System.Threading.Tasks", namespaceOf naming root "Models"]
  | _ =>
    let names := serviceReferences ops
    if names.isEmpty then []
    else ["import \x7b " ++ Text.join ", " names ++ " \x7d from '../models';"]

def serviceData (target : Target) (naming : Naming) (root : String) (d : Api.Document)
    (tag : String) : Json :=
  let ops := d.operationsFor tag
  .object [
    ("namespace", .string (if target = .csharp then namespaceOf naming root "Services" else "")),
    ("imports", .ofTexts (serviceImports target naming root ops)),
    ("class_name", .string (serviceName tag)), ("tag", .string tag),
    ("operations", .array (ops.map (operationData target)))]

def serviceFileName (target : Target) (tag : String) : String :=
  match target with
  | .csharp => serviceName tag ++ ".cs"
  | _ => Target.typescript.dirName tag ++ ".service.ts"

def serviceFile (library : Library) (target : Target) (naming : Naming) (root : String)
    (d : Api.Document) (tag : String) : Except Fault GeneratedFile := do
  let template := match target with
    | .csharp => "client_service.cs.j2"
    | _ => "client_service.ts.j2"
  let text ← library.render template (serviceData target naming root d tag)
  return .inDir (servicesDir target naming) (serviceFileName target tag) text

/-! ## Models -/

/-- Whether a text is an identifier as it stands. -/
def isIdentifier (s : String) : Bool :=
  let isStart := fun c : Char => c.isAlpha || c == '_' || c == '$'
  match s.toList with
  | [] => false
  | c :: rest => isStart c && rest.all fun d => isStart d || d.isDigit

/-- A text with a backslash in front of every `quote`. -/
def escaped (quote : Char) (s : String) : String :=
  String.ofList (Text.replaceChar quote ['\\', quote] s.toList)

def literal (s : String) : String :=
  "'" ++ escaped '\x27' s ++ "'"

/-- The key of a model property: its name, in quotes where TypeScript demands them. -/
def modelKey (target : Target) (name : String) : String :=
  if target = .typescript ∧ !isIdentifier name then literal name else name

/-- A property of a named type as one of an entity. What may be missing may be null. -/
def modelProperty (p : TypedProperty) : Property :=
  { Property.ofType p.name p.type with
    isRequired := p.isRequired
    isNullable := p.type.isNullable || !p.isRequired
    summary := p.comment
    maxLength := p.maxLength
    minLength := p.minLength }

def modelField (target : Target) (p : TypedProperty) : Field :=
  Field.ofProperty target (modelProperty p)

def modelFieldData (target : Target) (p : TypedProperty) : Json :=
  .object ((modelField target p).members ++ [("key", .string (modelKey target p.name))])

def memberData (isInteger : Bool) (m : EnumMember) : Json :=
  .object [
    ("name", .string m.name), ("value", .string (if isInteger then m.value else literal m.value)),
    ("raw", .string (escaped '"' m.value)), ("description", .string (oneLine m.description))]

def modelFileName (target : Target) (name : String) : String :=
  match target with
  | .csharp => name ++ ".cs"
  | _ => Target.typescript.fileStem name ++ ".model.ts"

/-- The import lines of a model; in TypeScript one for each other type it refers to. -/
def modelImports (target : Target) (d : TypeDefinition) : List String :=
  match target, d.body with
  | .csharp, .object _ =>
    usings ["System", "System.Collections.Generic", "System.Text.Json.Serialization"]
  | .csharp, .enum _ _ =>
    usings ["System.Runtime.Serialization", "System.Text.Json.Serialization"]
  | _, .object _ =>
    (d.references.filter (· != d.name)).map fun name =>
      "import \x7b " ++ name ++ " \x7d from './" ++ Target.typescript.fileStem name ++ ".model';"
  | _, .enum _ _ => []

def modelData (target : Target) (naming : Naming) (root : String) (d : TypeDefinition) : Json :=
  let (fields, members, isInteger) := match d.body with
    | .object properties => (properties.map (modelFieldData target), [], false)
    | .enum members isInteger => ([], members.map (memberData isInteger), isInteger)
  .object [
    ("namespace", .string (namespaceOf naming root "Models")),
    ("imports", .ofTexts (modelImports target d)), ("type_name", .string d.name),
    ("summary", .string (oneLine d.comment)), ("is_enum", .bool d.isEnum),
    ("is_integer", .bool isInteger), ("fields", .array fields), ("members", .array members)]

def modelFile (library : Library) (target : Target) (naming : Naming) (root : String)
    (d : TypeDefinition) : Except Fault GeneratedFile := do
  let template := match target with
    | .csharp => "client_model.cs.j2"
    | _ => "client_model.ts.j2"
  let text ← library.render template (modelData target naming root d)
  return .inDir (modelsDir target naming) (modelFileName target d.name) text

def indexFile (library : Library) (naming : Naming) (types : TypeTable) :
    Except Fault GeneratedFile := do
  let modules := types.values.map fun d => Target.typescript.fileStem d.name ++ ".model"
  let text ← library.render "client_index.ts.j2" (.object [("modules", .ofTexts modules)])
  return .inDir (modelsDir .typescript naming) "index.ts" text

def files (library : Library) (config : Config) (d : Api.Document) :
    Except Fault (List GeneratedFile) := do
  let target := config.clientTarget
  let naming := config.naming
  if !Artifact.client.supports target then throw (.unsupportedTarget .client target)
  let root ← naming.rootOr (Text.pascalCase d.title)
  let services ← d.tags.mapM (serviceFile library target naming root d)
  let models ← d.types.values.mapM (modelFile library target naming root)
  if target = .typescript ∧ !d.types.entries.isEmpty then
    return services ++ models ++ [← indexFile library naming d.types]
  else return services ++ models

end Client
end Scaffold

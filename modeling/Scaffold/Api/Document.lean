/-
Documents of an interface: its named types, and its operations with the types of what they take
and give.
-/
import Scaffold.Api.Resolver

namespace Scaffold
namespace Api

/-- Where a parameter is carried. -/
inductive Location where
  | path
  | query
  | header
deriving DecidableEq, Repr

def Location.name : Location → String
  | .path => "path"
  | .query => "query"
  | .header => "header"

/-- The location with the given name; others, such as cookies, are not carried. -/
def Location.ofName? (s : String) : Option Location :=
  [Location.path, .query, .header].find? (·.name == s)

structure Parameter where
  name : String
  location : Location
  type : TypeExpr
  isRequired : Bool
  comment : Option String
deriving DecidableEq

structure Body where
  type : TypeExpr
  contentType : String
  isRequired : Bool
deriving DecidableEq

def jsonContent : String := "application/json"
def multipartContent : String := "multipart/form-data"
def formContent : String := "application/x-www-form-urlencoded"

def Body.isMultipart (b : Body) : Bool :=
  Text.startsWith "multipart/" b.contentType

structure Operation where
  operationId : Option String
  method : String
  path : String
  tag : String
  summary : Option String
  parameters : List Parameter
  body : Option Body
  /-- The type of the answer on success. -/
  response : Option TypeExpr
deriving DecidableEq

namespace Operation

def parametersIn (op : Operation) (location : Location) : List Parameter :=
  op.parameters.filter (·.location == location)

def signatureTypes (op : Operation) : List TypeExpr :=
  op.parameters.map (·.type) ++ (op.body.map (·.type)).toList ++ op.response.toList

end Operation

structure Document where
  title : String
  version : String
  types : TypeTable
  operations : List Operation

namespace Document

def tags (d : Document) : List String :=
  d.operations.foldl (fun tags op => if tags.contains op.tag then tags else tags ++ [op.tag]) []

def operationsFor (d : Document) (tag : String) : List Operation :=
  d.operations.filter (·.tag == tag)

end Document

/-- Whether a document describes an interface. -/
def isSchemaDocument (document : Json) : Bool :=
  Schema.has document "openapi" || Schema.has document "swagger"

def methods : List String :=
  ["get", "post", "put", "patch", "delete", "head", "options", "trace"]

namespace Resolve

variable (document : Json)

/-- Follows references from a parameter, a body or an answer to where it is described. -/
def deref (place : String) : Nat → List String → Json → Except Failure Json
  | 0, _, _ => .error ⟨place, .endless⟩
  | fuel + 1, seen, value =>
    match Schema.ref? value with
    | none => .ok value
    | some reference =>
      if seen.contains reference then .error ⟨place, .cyclicRef reference⟩
      else do
        let target ← follow document reference place
        deref place fuel (reference :: seen) target

/-- Follows references to the end; there are no more of them than values in the document. -/
def described (value : Json) (place : String) : Except Failure Json :=
  deref document place (document.size + 2) [] value

/-- The parameter that a described value stands for, if it is carried in a known location. -/
def parameter (value : Json) (operation place : String) : Resolve (Option Parameter) := do
  let value ← described document value place
  match value.strAt? "name" with
  | none => failAt place .namelessParameter
  | some name =>
    match (value.strAt? "in").bind Location.ofName? with
    | none => return none
    | some location =>
      let context := operation ++ Text.pascalCase name
      let type ← match value.get? "schema" with
        | some schema => ofSchema document schema context (Json.Pointer.child place "schema")
        | none => ofSchema document value context place
      return some {
        name := name
        location := location
        type := type
        isRequired := location == .path || (value.boolAt? "required").getD false
        comment := Schema.description? value }

/-- The first of the preferred kinds of content that there is. -/
def pickContent (content : List (String × Json)) (preferred : List String) :
    Option (String × Json) :=
  preferred.findSome? fun kind => (Json.lookup kind content).map (kind, ·)

def requestBody (value : Json) (operation place : String) : Resolve (Option Body) := do
  let value ← described document value place
  let content := value.membersAt "content"
  match pickContent content [jsonContent, multipartContent, formContent] with
  | none => return none
  | some (kind, media) =>
    match media.get? "schema" with
    | none => return none
    | some schema =>
      let inside := Json.Pointer.child (Json.Pointer.child place "content") kind
      let type ← ofSchema document schema (operation ++ "Request")
        (Json.Pointer.child inside "schema")
      return some {
        type := type
        contentType := if kind == formContent then multipartContent else kind
        isRequired := (value.boolAt? "required").getD false }

def responseSchema? (response : Json) : Option Json :=
  match response.membersAt? "content" with
  | some content =>
    (pickContent content [jsonContent, "*/*", "text/json"]).bind fun (_, media) =>
      media.get? "schema"
  | none => response.get? "schema"

/-- The type of the first answer, in the order of codes, that has a schema. -/
def firstResponse (responses : List (String × Json)) (operation place : String) :
    List String → Resolve (Option TypeExpr)
  | [] => pure none
  | code :: rest => do
    let inside := Json.Pointer.child place code
    let response ← described document ((Json.lookup code responses).getD .null) inside
    match responseSchema? response with
    | some schema =>
      let type ← ofSchema document schema (operation ++ "Response")
        (Json.Pointer.child inside "schema")
      return some type
    | none => firstResponse responses operation place rest

def response (value : Json) (operation place : String) : Resolve (Option TypeExpr) :=
  match value.members? with
  | none => pure none
  | some responses =>
    let codes := NameSet.ofList ((responses.map (·.1)).filter (Text.startsWith "2"))
    firstResponse document responses operation place codes

structure Inputs where
  parameters : List Parameter
  body : Option Body
  /-- Fields of a form with their places, in reverse. -/
  fields : List (Json × String)

/-- A parameter takes the place of an earlier one with its name and location. -/
def putParameter (p : Parameter) (parameters : List Parameter) : List Parameter :=
  parameters.filter (fun q => !(q.name == p.name && q.location == p.location)) ++ [p]

/-- Takes one parameter in: into the list, as the body, or as a field of a form. -/
def input (context place : String) (inputs : Inputs) (value : Json) : Resolve Inputs := do
  let value ← described document value place
  match value.strAt? "in" with
  | some "body" =>
    match value.get? "schema" with
    | none => return inputs
    | some schema =>
      let type ← ofSchema document schema (context ++ "Request")
        (Json.Pointer.child place "schema")
      return { inputs with
        body := some ⟨type, jsonContent, (value.boolAt? "required").getD false⟩ }
  | some "formData" => return { inputs with fields := (value, place) :: inputs.fields }
  | _ =>
    match ← parameter document value context place with
    | some p => return { inputs with parameters := putParameter p inputs.parameters }
    | none => return inputs

/-- The property that a field of a form stands for. -/
def formField (owner : String) (field : Json × String) : Resolve TypedProperty := do
  let (value, place) := field
  match value.strAt? "name" with
  | none => failAt place .namelessParameter
  | some name =>
    let type ← ofSchema document value (owner ++ Text.pascalCase name) place
    return { typedProperty [] name value type with
      isRequired := (value.boolAt? "required").getD false }

/-- The fields of a form as one type, sent in parts. -/
def formBody (context : String) (first : Json × String) (rest : List (Json × String)) :
    Resolve Body := do
  let name ← claimName (context ++ "Form") first.2
  let properties ← (first :: rest).mapM (formField document name)
  define first.2 (.form ((first :: rest).map (·.1))) ⟨name, none, .object properties⟩
  return ⟨.reference name, multipartContent, true⟩

/-- The body of an operation: the one it asks for, or else its form, or else the parameter that
is one. -/
def operationBody (op : Json) (inputs : Inputs) (context place : String) :
    Resolve (Option Body) :=
  match op.get? "requestBody", inputs.fields.reverse with
  | some value, _ => requestBody document value context (Json.Pointer.child place "requestBody")
  | none, first :: rest => some <$> formBody document context first rest
  | none, [] => pure inputs.body

def operationResponse (op : Json) (context place : String) : Resolve (Option TypeExpr) :=
  match op.get? "responses" with
  | some value => response document value context (Json.Pointer.child place "responses")
  | none => pure none

def tagOf (op : Json) : String :=
  match (op.itemsAt "tags").head?.bind Json.str? with
  | some tag => Text.pascalCase tag
  | none => "Default"

/-- An operation; `shared` are the parameters of its path. -/
def operation (path method : String) (op : Json) (shared : List Json) (place : String) :
    Resolve Operation := do
  let operationId := op.strAt? "operationId"
  let context := Text.pascalCase (operationMethodName operationId method path)
  let parametersPlace := Json.Pointer.child place "parameters"
  let inputs ← (shared ++ op.itemsAt "parameters").zipIdx.foldlM (fun inputs (value, i) =>
    input document context (Json.Pointer.child parametersPlace (toString i)) inputs value)
    ⟨[], none, []⟩
  let body ← operationBody document op inputs context place
  let response ← operationResponse document op context place
  return {
    operationId := operationId
    method := Text.uppercase method
    path := path
    tag := tagOf op
    summary := Schema.visibleText? ((op.get? "summary").or (op.get? "description"))
    parameters := inputs.parameters
    body := body
    response := response }

def pathOperations (path : String) (item : Json) : Resolve (List Operation) := do
  let place := Json.Pointer.child "#/paths" path
  let item ← described document item place
  let shared := item.itemsAt "parameters"
  methods.filterMapM fun method =>
    match item.get? method with
    | none => pure none
    | some op => some <$> operation document path method op shared (Json.Pointer.child place method)

def operations : Resolve (List Operation) := do
  let lists ← (document.membersAt "paths").mapM fun (path, item) =>
    pathOperations document path item
  return lists.flatten

def everything : Resolve (List Operation) := do
  allNamed document
  operations document

end Resolve

def inFile (path : String) (f : Failure) : Failure :=
  ⟨path ++ f.path, f.cause⟩

def infoText (document : Json) (key : String) : String :=
  ((document.get? "info").bind (·.strAt? key)).getD ""

/-- Every named type and every operation of a document. -/
def load (document : Json) (path : String) : Except Failure Document :=
  match document with
  | .object _ =>
    match (Resolve.everything document).run Resolver.start with
    | (.ok operations, resolver) =>
      .ok ⟨infoText document "title", infoText document "version", resolver.table, operations⟩
    | (.error failure, _) => .error (inFile path failure)
  | _ => .error ⟨path, .notAnObject⟩

end Api
end Scaffold

/-
Input files: what is read from a text, by the extension of its path.
-/
import Scaffold.Api.Document
import Scaffold.Api.Text
import Scaffold.Code.Declare
import Scaffold.Database.Schema
import Scaffold.Declaration.Record
import Scaffold.Mapping.Declare

namespace Scaffold

/-- What an input file holds. -/
inductive Source where
  | declarations (declarations : List Declaration)
  /-- Tables: how they map to entities, and the declarations made from that. -/
  | relational (model : MappingModel) (declarations : List Declaration)
  | document (document : Json)

namespace Source

def extension (path : String) : String :=
  Text.lowercaseAscii ((Path.extension? path).getD "")

/-- The namespace of entities that come from tables: the name of the file as a type name. -/
def namespaceOf (path : String) : String :=
  Text.pascalCase ((Path.stem? path).getD "")

def ofTables (text path : String) : Except Failure Source := do
  let model := Database.mappingModel (← Database.readTables text path)
  return .relational model (model.declarations (namespaceOf path))

/-- Reads a document, which describes an interface or, in JSON, may hold declarations. -/
def ofDocument (text path : String) : Except Failure Source := do
  let document ← Api.readDocument text path
  if Api.isSchemaDocument document then return .document document
  else if extension path == "json" then
    return .declarations (← Declaration.ofDocument path document)
  else throw ⟨path, .notASchemaDocument⟩

/-- Reads the text of the input file at a path. -/
def ofText (text path : String) : Except Failure Source :=
  match extension path with
  | "rs" => (Code.declarations path text).map .declarations
  | "sql" => ofTables text path
  | "json" => ofDocument text path
  | "yaml" => ofDocument text path
  | "yml" => ofDocument text path
  | other => .error ⟨path, .unsupportedInput other⟩

end Source
end Scaffold

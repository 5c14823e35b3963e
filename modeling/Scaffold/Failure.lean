/-
What can be wrong with one input, and where.
-/
import Scaffold.TypeExpr.Reader

namespace Scaffold

/-- Why an entity, a declaration or a document cannot be used. -/
inductive Cause where
  | emptyEntityName
  | duplicateProperty (property : String)
  | duplicatePropertyOf (property entity : String)
  | listAndDictionary (property : String)
  | navigationAndEnum (property : String)
  | unreadableType (property : String) (error : TypeExpr.ParseError)
  | notAnEntity (enumName : String)
  | cyclicBase (base : String)
  | notInModel (entity : String)
  | duplicateEntity (entity : String) (first : String)
  | unresolvableRef (reference : String)
  | cyclicRef (reference : String)
  | containsItself (schema : String)
  | endless
  | enumWithoutValues
  | namelessParameter
  | notAnObject
  | notAnObjectSchema (schema : String)
  | unsupportedType (owner field : String)
  | unknownMark (name : String)
  | missingField (field : String)
  | invalidRecord
  | invalidJson
  | invalidYaml
  | invalidSql
  | invalidSyntax
  | unreadableFile
  | notASchemaDocument
  | unsupportedInput (extension : String)
deriving DecidableEq, Repr

namespace Cause

def message : Cause → String
  | emptyEntityName => "entity name is empty"
  | duplicateProperty property => "duplicate property `" ++ property ++ "`"
  | duplicatePropertyOf property entity =>
    "duplicate property `" ++ property ++ "` on entity `" ++ entity ++ "`"
  | listAndDictionary property =>
    "property `" ++ property ++ "` cannot be both a list and a dictionary"
  | navigationAndEnum property =>
    "property `" ++ property ++ "` cannot be both a navigation and an enum"
  | unreadableType property error => "property `" ++ property ++ "`: " ++ error.message
  | notAnEntity name => "`" ++ name ++ "` is an enum, not an entity"
  | cyclicBase base => "cyclic base chain through `" ++ base ++ "`"
  | notInModel entity => "entity `" ++ entity ++ "` is not in the mapping model"
  | duplicateEntity entity first =>
    "duplicate entity `" ++ entity ++ "`, already declared in " ++ first
  | unresolvableRef reference => "unresolvable $ref `" ++ reference ++ "`"
  | cyclicRef reference => "cyclic $ref `" ++ reference ++ "`"
  | containsItself schema => "`" ++ schema ++ "` contains itself through a non-object schema"
  | endless => "schema without end"
  | enumWithoutValues => "enum without values"
  | namelessParameter => "parameter without a name"
  | notAnObject => "document is not an object"
  | notAnObjectSchema schema => "`" ++ schema ++ "` is not an object schema"
  | unsupportedType owner field => "unsupported type on `" ++ owner ++ "::" ++ field ++ "`"
  | unknownMark name => "unknown crud attribute `" ++ name ++ "`"
  | missingField field => "missing field `" ++ field ++ "`"
  | invalidRecord => "invalid record"
  | invalidJson => "invalid JSON"
  | invalidYaml => "invalid YAML"
  | invalidSql => "sql parser error"
  | invalidSyntax => "syntax error"
  | unreadableFile => "io error"
  | notASchemaDocument => "not an OpenAPI or Swagger document"
  | unsupportedInput extension => "unsupported input type `." ++ extension ++ "`"

end Cause

/-- A failure local to one input: the file or document position, and the cause. -/
structure Failure where
  path : String
  cause : Cause
deriving DecidableEq, Repr

namespace Failure

def reason (f : Failure) : String :=
  f.cause.message

end Failure
end Scaffold

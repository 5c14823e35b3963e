/-
What the members of a schema say about it.
-/
import Scaffold.Json.Pointer
import Scaffold.Json.Writer
import Scaffold.Target.Naming
import Scaffold.TypeTable

namespace Scaffold
namespace Api
namespace Schema

/-- The type that a schema names; of a list of types the first that is not null. -/
def typeName? (schema : Json) : Option String :=
  match schema.get? "type" with
  | some (.string t) => some t
  | some (.array types) => (types.filterMap Json.str?).find? (· != "null")
  | _ => none

/-- The schema allows null by a mark or in its list of types. -/
def isNullable (schema : Json) : Bool :=
  (schema.boolAt? "nullable").getD false || (schema.boolAt? "x-nullable").getD false ||
    match schema.get? "type" with
    | some (.array types) => types.any fun t => t.str? == some "null"
    | _ => false

def isNull (schema : Json) : Bool :=
  schema.strAt? "type" == some "null"

def isEnum (schema : Json) : Bool :=
  (schema.itemsAt? "enum").isSome

def has (schema : Json) (key : String) : Bool :=
  (schema.get? key).isSome

/-- The schema describes an object with properties of its own. -/
def isObject (schema : Json) : Bool :=
  has schema "properties" || (has schema "allOf" && !has schema "$ref") ||
    (typeName? schema == some "object" && !has schema "additionalProperties")

def ref? (schema : Json) : Option String :=
  schema.strAt? "$ref"

/-- A text without blanks at its ends, if something is left. -/
def visibleText? (value : Option Json) : Option String :=
  ((value.bind Json.str?).map Text.trim).filter (!·.isEmpty)

/-- The description, or else the title. -/
def description? (schema : Json) : Option String :=
  visibleText? ((schema.get? "description").or (schema.get? "title"))

def count? (schema : Json) (key : String) : Option Nat :=
  (schema.natAt? key).filter (· ≤ Text.maxNatural32)

/-- The texts of the first list under one of the given keys. -/
def texts (schema : Json) (keys : List String) : List String :=
  match keys.findSome? schema.itemsAt? with
  | some items => items.map fun item => item.str?.getD item.text
  | none => []

def stringType (schema : Json) : String :=
  match schema.strAt? "format" with
  | some "date-time" => "DateTime"
  | some "date" => "DateOnly"
  | some "time" => "TimeOnly"
  | some "uuid" => "Guid"
  | some "binary" => "object"
  | _ => "string"

def scalarType (schema : Json) : String :=
  let format := schema.strAt? "format"
  match typeName? schema with
  | some "string" => stringType schema
  | some "integer" => if format = some "int64" then "long" else "int"
  | some "number" =>
    if format = some "float" then "float"
    else if format = some "decimal" then "decimal"
    else "double"
  | some "boolean" => "bool"
  | _ => "object"

/-- The kinds of schemas whose type is not given by a reference, parts or values. -/
inductive Shape where
  | array (items : Option Json)
  | record
  | map (value : Option Json)
  | scalar (primitive : String)

/-- The schema of the values of a map, if it says anything. -/
def valueSchema? (schema : Json) : Option Json :=
  (schema.get? "additionalProperties").filter fun value =>
    match value.members? with
    | some members => !members.isEmpty
    | none => false

def shape (schema : Json) : Shape :=
  let type := typeName? schema
  let mayBeObject := type == some "object" || type.isNone
  if type = some "array" then .array (schema.get? "items")
  else if mayBeObject && has schema "properties" then .record
  else if mayBeObject && has schema "additionalProperties" then .map (valueSchema? schema)
  else .scalar (scalarType schema)

/-- How the type of a schema comes of the type of an inner one or of a reference. -/
inductive Wrap where
  /-- The same type; it has null if the inner type has it or the mark says so. -/
  | same (nullable : Bool)
  | list (nullable : Bool)
  /-- A map from texts. -/
  | map (nullable : Bool)
deriving DecidableEq, Repr

def Wrap.apply : Wrap → TypeExpr → TypeExpr
  | .same nullable, t => t.withNullable (nullable || t.isNullable)
  | .list nullable, t => (TypeExpr.list t).withNullable nullable
  | .map nullable, t => (TypeExpr.dictionary (.primitive "string") t).withNullable nullable

inductive Form where
  | reference (reference : String) (wrap : Wrap)
  /-- An inner schema; the suffix is for the context and the segment leads to the schema. -/
  | inner (schema : Json) (suffix segment : String) (wrap : Wrap)
  /-- An object that gets a definition of its own. -/
  | object (nullable : Bool)
  /-- An enum that gets a definition of its own. -/
  | enum (nullable : Bool)
  | plain (type : TypeExpr)

/-- The variants of a schema with the key they are under. -/
def variants? (schema : Json) : Option (String × List Json) :=
  ["oneOf", "anyOf"].findSome? fun key => (schema.itemsAt? key).map (key, ·)

/-- The form of a schema without a reference, parts, variants and values. -/
def shapeForm (nullable : Bool) : Shape → Form
  | .array (some items) => .inner items "Item" "items" (.list nullable)
  | .array none => .plain ((TypeExpr.list (.primitive "object")).withNullable nullable)
  | .record => .object nullable
  | .map (some value) => .inner value "Value" "additionalProperties" (.map nullable)
  | .map none =>
    .plain ((TypeExpr.dictionary (.primitive "string") (.primitive "object")).withNullable nullable)
  | .scalar primitive => .plain ((TypeExpr.primitive primitive).withNullable nullable)

/-- A reference comes before parts, those before variants, and those before values. A single part
stands for the whole; of variants, a single one that is not null does. -/
def form (schema : Json) : Form :=
  let nullable := isNullable schema
  match ref? schema with
  | some reference => .reference reference (.same nullable)
  | none =>
  match schema.itemsAt? "allOf" with
  | some [single] => .inner single "" "allOf" (.same nullable)
  | some _ => .object nullable
  | none =>
  match variants? schema with
  | some (key, variants) =>
    let others := variants.filter (!isNull ·)
    let nullable := others.length < variants.length || nullable
    match others with
    | [single] => .inner single "" key (.same nullable)
    | _ => .plain ((TypeExpr.primitive "object").withNullable nullable)
  | none => if isEnum schema then .enum nullable else shapeForm nullable (shape schema)

/-- What a reference to a schema makes of it. -/
inductive Kind where
  | enum
  | object
  /-- No definition under the name of the reference: an alias, a list, a map or a primitive. -/
  | other
deriving DecidableEq, Repr

def kind (schema : Json) : Kind :=
  if has schema "$ref" then .other
  else if isEnum schema then .enum
  else if isObject schema then .object
  else .other

/-- An integer of at most 64 bits with its sign. -/
def isInteger : Json → Bool
  | .number (.natural n) => n < Nat.pow 2 63
  | .number (.negative _) => true
  | _ => false

def isJsonNull : Json → Bool
  | .null => true
  | _ => false

/-- The members of an enum: the values that are not null, under the names given for them or made
from them. -/
def enumMembers (schema : Json) (values : List Json) : List EnumMember :=
  let names := texts schema ["x-enum-varnames", "x-enumNames"]
  let descriptions := texts schema ["x-enum-descriptions", "x-enumDescriptions"]
  values.zipIdx.filterMap fun (value, i) =>
    if isJsonNull value then none
    else
      let raw := value.str?.getD value.text
      let given := names[i]?.filter (!·.isEmpty)
      some ⟨enumMemberName (given.getD raw), raw, descriptions[i]?.filter (!·.isEmpty)⟩

def enumDefinition (name : String) (schema : Json) (values : List Json) : TypeDefinition :=
  let isInteger := typeName? schema == some "integer" ||
    (values.filter (!isJsonNull ·)).all isInteger
  ⟨name, description? schema, .enum (enumMembers schema values) isInteger⟩

end Schema
end Api
end Scaffold

/-
Documents put together from their named schemas, and schemas from what they refer to.
-/
import Scaffold.Api.Resolver

namespace Scaffold
namespace Api

def listing (schemas : List (String × Json)) : Json :=
  .object [("openapi", .string "3.0.0"), ("components", .object [("schemas", .object schemas)])]

def schemaRef (name : String) : Json :=
  .object [("$ref", .string ("#/components/schemas/" ++ name))]

def record (properties : List (String × Json)) : Json :=
  .object [("type", .string "object"), ("properties", .object properties)]

def listOf (items : Json) : Json :=
  .object [("type", .string "array"), ("items", items)]

def typeNamed (name : String) : Json :=
  .object [("type", .string name)]

end Api
end Scaffold

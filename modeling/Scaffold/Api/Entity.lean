/-
Entities from the object schemas of a document.
-/
import Scaffold.Api.Document
import Scaffold.Entity

namespace Scaffold
namespace Api

def objectSchemaNames (document : Json) : List String :=
  ((namedSchemas document).filter fun (_, schema) =>
    Schema.isObject schema && !Schema.isEnum schema).map (·.1)

def entityProperty (table : TypeTable) (p : TypedProperty) : Property :=
  let type := p.type.mapInnermost fun inner => { inner with isEnum := table.isEnum inner.name }
  let base := Property.ofType (Text.pascalCase p.name) type
  { base with
    isRequired := p.isRequired
    isComplex := type.innermost.isReference && !base.isEnum
    maxLength := p.maxLength
    minLength := p.minLength
    summary := p.comment }

/-- The entity for a type of the table; failures are at `place`. -/
def entityOf (table : TypeTable) (d : TypeDefinition) (properties : List TypedProperty)
    (namespaceName path place : String) : Except Failure Entity :=
  let start :=
    { Entity.empty d.name namespaceName with filePath := some path, comment := d.comment }
  properties.foldlM (fun e p =>
    match e.addProperty (entityProperty table p) with
    | .ok e => .ok e
    | .error f => .error (inFile path ⟨place, f.cause⟩)) start

def extractEntity (document : Json) (schema path : String) : Except Failure Entity :=
  match (Resolve.ofName document schema).run Resolver.start with
  | (.error failure, _) => .error (inFile path failure)
  | (.ok type, resolver) =>
    let place := Json.Pointer.child (schemasPrefix document) schema
    match resolver.table.get? type.name with
    | some ⟨name, comment, .object properties⟩ =>
      entityOf resolver.table ⟨name, comment, .object properties⟩ properties
        (Text.pascalCase (infoText document "title")) path place
    | _ => .error (inFile path ⟨place, .notAnObjectSchema schema⟩)

end Api
end Scaffold

/-
Types as each target language writes them.
-/
import Scaffold.Target.Basic
import Scaffold.TypeExpr.Shape

namespace Scaffold
namespace Target

def csharpPrimitive (p : Primitive) : String :=
  p.name

def typescriptPrimitive : Primitive → String
  | .bool => "boolean"
  | .object => "any"
  | .byte | .sbyte | .short | .ushort | .int | .uint | .long | .ulong => "number"
  | .float | .double | .decimal => "number"
  | .string | .char | .guid | .dateTime | .dateTimeOffset | .dateOnly => "string"
  | .timeOnly | .timeSpan => "string"

def rustPrimitive : Primitive → String
  | .string => "String"
  | .char => "char"
  | .bool => "bool"
  | .byte => "u8"
  | .sbyte => "i8"
  | .short => "i16"
  | .ushort => "u16"
  | .int => "i32"
  | .uint => "u32"
  | .long => "i64"
  | .ulong => "u64"
  | .float => "f32"
  | .double => "f64"
  | .decimal => "rust_decimal::Decimal"
  | .guid => "uuid::Uuid"
  | .dateTime => "chrono::DateTime<chrono::Utc>"
  | .dateTimeOffset => "chrono::DateTime<chrono::Utc>"
  | .dateOnly => "chrono::NaiveDate"
  | .timeOnly => "chrono::NaiveTime"
  | .timeSpan => "std::time::Duration"
  | .object => "serde_json::Value"

def primitiveName : Target → Primitive → String
  | .csharp => csharpPrimitive
  | .typescript => typescriptPrimitive
  | .rust => rustPrimitive

/-- A type name; only canonical names of primitives are replaced. -/
def typeName (target : Target) (name : String) : String :=
  match Primitive.ofName? name with
  | some p => target.primitiveName p
  | none => name

def listOf : Target → String → String
  | .csharp, element => "List<" ++ element ++ ">"
  | .typescript, element =>
    if element.toList.contains ' ' then "(" ++ element ++ ")[]" else element ++ "[]"
  | .rust, element => "Vec<" ++ element ++ ">"

/-- The map type of a rendered value; keys are always strings. -/
def mapOf : Target → String → String
  | .csharp, value => "Dictionary<string, " ++ value ++ ">"
  | .typescript, value => "Record<string, " ++ value ++ ">"
  | .rust, value => "std::collections::HashMap<String, " ++ value ++ ">"

/-- What a rendered type ends with when null is among its values, in TypeScript. -/
def nullUnion : String := " | null"

/-- The rendered type with null; one that already has null stays. -/
def nullableOf : Target → String → String
  | .csharp, base => if Text.endsWith "?" base then base else base ++ "?"
  | .typescript, base => if Text.endsWith nullUnion base then base else base ++ nullUnion
  | .rust, base => if Text.startsWith "Option<" base then base else "Option<" ++ base ++ ">"

mutual

def render (target : Target) : TypeExpr → String
  | ⟨name, args, _, isEnum, isNullable⟩ =>
    let plain :=
      if isEnum then name
      else if args.isEmpty then target.typeName name
      else name ++ "<" ++ Text.join ", " (renderAll target args) ++ ">"
    let base := match renderAll target args with
      | [element] => if name = TypeExpr.listName then target.listOf element else plain
      | [_, value] => if name = TypeExpr.dictionaryName then target.mapOf value else plain
      | _ => plain
    if isNullable then target.nullableOf base else base

def renderAll (target : Target) : List TypeExpr → List String
  | [] => []
  | t :: rest => render target t :: renderAll target rest

end

/-- The type that a text and its marks mean together, in the target language. -/
def renderText (target : Target) (text : String) (marks : TypeExpr.Marks) : String :=
  target.render (TypeExpr.describe text marks)

end Target
end Scaffold

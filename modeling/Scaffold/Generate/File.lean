/-
Generated files, and what the generators share: namespaces, `using` lines and properties as
template data.
-/
import Scaffold.Field
import Scaffold.Json.Basic
import Scaffold.KeyMap
import Scaffold.Text.Path

namespace Scaffold

structure GeneratedFile where
  name : String
  path : String
  content : String
deriving DecidableEq, Repr

namespace GeneratedFile

def inDir (dir name content : String) : GeneratedFile :=
  ⟨name, Path.join dir name, content⟩

end GeneratedFile

/-- The module of an entity, if it has one with a name. -/
def Entity.module? (e : Entity) : Option String :=
  e.moduleName.filter (!·.isEmpty)

/-- The visible parts of a namespace with points between them. -/
def joinNamespace (parts : List String) : String :=
  Text.join "." ((parts.map Text.trim).filter (!·.isEmpty))

/-- The `using` lines of namespaces, each once, in order. -/
def usings (namespaces : List String) : List String :=
  (NameSet.ofList ((namespaces.map Text.trim).filter (!·.isEmpty))).map fun n =>
    "using " ++ n ++ ";"

/-- A property in a target language, as its templates see it. -/
def Field.members (f : Field) : List (String × Json) := [
  ("name", .string f.name), ("source_name", .string f.sourceName),
  ("type_name", .string f.typeText), ("comment", .string f.comment),
  ("default_value", .string f.defaultValue), ("is_required", .bool f.isRequired),
  ("is_nullable", .bool f.isNullable), ("is_string", .bool f.isString),
  ("max_length", .ofNat? f.maxLength), ("min_length", .ofNat? f.minLength),
  ("initializer", .string f.initializer)]

def Property.rendered (p : Property) (target : Target) : String :=
  target.renderText p.typeText p.marks

/-- The type of a property in C# where null is not among its values. -/
def Property.valueType (p : Property) : String :=
  { p with isNullable := false }.rendered .csharp

def Entity.keyType (e : Entity) (fallback : String) : String :=
  match e.key? with
  | some key => key.valueType
  | none => Target.csharp.renderText fallback ⟨false, false, false⟩

end Scaffold

/-
Files of transfer objects: one for each shape of an entity, and in Rust a module that gathers
them.
-/
import Scaffold.Code.Layout
import Scaffold.Dto
import Scaffold.Generate.File
import Scaffold.Template.Library

namespace Scaffold

/-- The named types that properties refer to, in order. -/
def referencedTypes (properties : List Property) : List String :=
  NameSet.ofList (TypeExpr.referencesIn (properties.map (·.fullType)))

namespace Dto

def directory (target : Target) (naming : Naming) (e : Entity) : String :=
  let dir := match e.module? with
    | some module => Path.join naming.dtoDir (target.dirName module)
    | none => naming.dtoDir
  Path.join dir (target.dirName (e.name ++ "Dtos"))

def namespaceOf (naming : Naming) (root : String) (e : Entity) : String :=
  Text.join "." ((root :: naming.dtoNamespace :: e.module?.toList ++ [e.name ++ "Dtos"]).filter
    (!·.isEmpty))

/-- The namespaces that a transfer object uses in C#. -/
def csharpImports (e : Entity) (properties : List Property) : List String :=
  let collections := properties.any (·.isCollection)
  let rules := properties.any fun p => p.isRequired || p.maxLength.isSome || p.minLength.isSome
  let models := !(referencedTypes properties).isEmpty && !e.namespaceName.isEmpty
  let names := ["System"] ++ (if collections then ["System.Collections.Generic"] else []) ++
    (if rules then ["System.ComponentModel.DataAnnotations"] else []) ++
    (if models then [e.namespaceName] else [])
  (NameSet.ofList names).map fun n => "using " ++ n ++ ";"

/-- The line that imports named types. In C# names are not imported one by one. -/
def importLine (target : Target) (naming : Naming) (names : List String) : String :=
  match target with
  | .rust => "use " ++ naming.rustTypesPath ++ "::\x7b" ++ Text.join ", " names ++ "\x7d;"
  | _ => "import \x7b " ++ Text.join ", " names ++ " \x7d from '" ++ naming.tsTypesImport ++ "';"

/-- The import lines of a transfer object. In TypeScript and Rust one line names the types the
properties refer to. -/
def imports (target : Target) (naming : Naming) (e : Entity) (properties : List Property) :
    List String :=
  match target with
  | .csharp => csharpImports e properties
  | _ =>
    let names := referencedTypes properties
    if names.isEmpty then [] else [importLine target naming names]

def fields (target : Target) (config : Config) (e : Entity) (kind : DtoKind) : List Field :=
  (e.dtoProperties kind config).map (Field.ofProperty target)

/-- Whether a shape has members for paging in a language; in C# filters inherit them. -/
def hasPaging (target : Target) (kind : DtoKind) : Bool :=
  kind = .filter && target ≠ .csharp

def baseClass (target : Target) (naming : Naming) (kind : DtoKind) : String :=
  if kind = .filter ∧ target = .csharp then " : " ++ naming.filterBaseClass else ""

def data (target : Target) (config : Config) (root : String) (e : Entity) (kind : DtoKind) :
    Json :=
  .object [
    ("namespace", .string (namespaceOf config.naming root e)),
    ("imports", .ofTexts (imports target config.naming e (e.dtoProperties kind config))),
    ("type_name", .string (kind.typeName e.name)), ("entity_name", .string e.name),
    ("kind", .string kind.label), ("summary", .string (oneLine e.comment)),
    ("base_class", .string (baseClass target config.naming kind)),
    ("fields", .array ((fields target config e kind).map fun f => .object f.members)),
    ("paging", .bool (hasPaging target kind))]

def fileName (target : Target) (e : Entity) (kind : DtoKind) : String :=
  target.fileStem (kind.typeName e.name) ++ "." ++ target.extension

/-- The text of a generated file in the form its language is written in. -/
def laidOut (target : Target) (text : String) : String :=
  match target with
  | .rust => Code.laidOut text
  | _ => text

def file (library : Library) (config : Config) (root : String) (e : Entity) (kind : DtoKind) :
    Except Fault GeneratedFile := do
  let target := config.dtoTarget
  let text ← library.render ("dto." ++ target.extension ++ ".j2") (data target config root e kind)
  return .inDir (directory target config.naming e) (fileName target e kind) (laidOut target text)

/-- The module that gathers the transfer objects in Rust. -/
def index (library : Library) (config : Config) (e : Entity) : Except Fault GeneratedFile := do
  let modules := DtoKind.all.map fun kind => Target.rust.fileStem (kind.typeName e.name)
  let text ← library.render "dto_mod.rs.j2" (.object [("modules", .ofTexts modules)])
  return .inDir (directory .rust config.naming e) "mod.rs" text

def files (library : Library) (config : Config) (e : Entity) :
    Except Fault (List GeneratedFile) := do
  let root ← config.naming.rootFor e
  let shapes ← DtoKind.all.mapM (file library config root e)
  if config.dtoTarget = .rust then return shapes ++ [← index library config e] else return shapes

end Dto
end Scaffold

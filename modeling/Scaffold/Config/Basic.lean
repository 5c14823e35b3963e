/-
The settings of a run: which inputs to read, what to generate in which language, and the names and
directories used in generated code.
-/
import Scaffold.Entity
import Scaffold.Target.Basic

namespace Scaffold

structure Naming where
  /-- The root namespace; without one each entity's own namespace counts. -/
  rootNamespace : Option String := none
  dtoDir : String := "Share/Models"
  dtoNamespace : String := "Share.Models"
  managerDir : String := "Application/Managers"
  managerNamespace : String := "Application.Managers"
  controllerDir : String := "Http.API/Controllers"
  controllerNamespace : String := "Http.API.Controllers"
  clientDir : String := "ClientServices"
  clientNamespace : String := "ClientServices"
  filterBaseClass : String := "FilterBase"
  /-- The type of keys that have no property of their own. -/
  keyType : String := "Guid"
  /-- The module that TypeScript files import model types from. -/
  tsTypesImport : String := "../models"
  /-- The module path that Rust files import model types from. -/
  rustTypesPath : String := "crate::models"
deriving DecidableEq, Repr

structure Config where
  entityPaths : List String := []
  includeEntities : String := "*"
  excludeEntities : String := ""
  artifacts : List Artifact := [.dto]
  outputDir : String := "./generated"
  dtoTarget : Target := .csharp
  clientTarget : Target := .typescript
  naming : Naming := {}
  /-- Properties left out of what is written and filtered, in any letter case. -/
  ignoreProperties : List String := ["Id", "CreatedTime", "UpdatedTime", "IsDeleted", "TenantId"]
  /-- Texts that may be this long or longer are not filtered by. -/
  filterMaxLength : Nat := 1000
  templatesDir : Option String := none
  force : Bool := false
  dryRun : Bool := false
  logLevel : Option String := none
deriving DecidableEq, Repr

/-- Why a run stops. -/
inductive Fault where
  | input (failure : Failure)
  | noNamespaceFor (entity : String)
  | noNamespace
  | badSettings
  | noInputs
  | missingInput (path : String)
  | noArtifacts
  | zeroFilterLength
  | unsupportedTarget (artifact : Artifact) (target : Target)
  | badTemplate
  | fileSystem
deriving DecidableEq, Repr

namespace Fault

def message : Fault → String
  | input failure => failure.path ++ ": " ++ failure.reason
  | noNamespaceFor entity =>
    "no namespace resolvable for entity `" ++ entity ++ "`: set naming.root_namespace"
  | noNamespace => "no namespace resolvable: set naming.root_namespace"
  | badSettings => "unreadable settings"
  | noInputs => "at least one entity path is required"
  | missingInput path => "Entity source not found: " ++ path
  | noArtifacts => "at least one artifact kind is required"
  | zeroFilterLength => "filter_max_length must be greater than zero"
  | unsupportedTarget artifact target =>
    "Target " ++ target.name ++ " is not supported by the " ++ artifact.label ++ " generator"
  | badTemplate => "unreadable template"
  | fileSystem => "file system error"

end Fault

namespace Naming

/-- The configured root namespace, if something of it can be seen. -/
def root? (naming : Naming) : Option String :=
  (naming.rootNamespace.map Text.trim).filter (!·.isEmpty)

/-- The root namespace for what is generated for an entity. -/
def rootFor (naming : Naming) (e : Entity) : Except Fault String :=
  match naming.root? with
  | some root => .ok root
  | none =>
    let own := Text.trim e.namespaceName
    if own.isEmpty then .error (.noNamespaceFor e.name) else .ok own

/-- The root namespace for what belongs to no entity. -/
def rootOr (naming : Naming) (fallback : String) : Except Fault String :=
  match naming.root? with
  | some root => .ok root
  | none =>
    let fallback := Text.trim fallback
    if fallback.isEmpty then .error .noNamespace else .ok fallback

end Naming

namespace Config

/-- Whether a property is left out of what is written and filtered. -/
def isIgnored (c : Config) (property : String) : Bool :=
  c.ignoreProperties.any (Text.eqIgnoringCase · property)

def wants (c : Config) (artifact : Artifact) : Bool :=
  c.artifacts.contains artifact

/-- The language an artifact is generated in. -/
def targetOf (c : Config) : Artifact → Target
  | .dto => c.dtoTarget
  | .client => c.clientTarget
  | .manager => .csharp
  | .controller => .csharp

/-- Checks the settings; `isThere` tells whether a path exists. -/
def validate (c : Config) (isThere : String → Bool) : Except Fault Unit :=
  if c.entityPaths.isEmpty then .error .noInputs
  else match c.entityPaths.find? (!isThere ·) with
    | some path => .error (.missingInput path)
    | none =>
      if c.artifacts.isEmpty then .error .noArtifacts
      else if c.filterMaxLength = 0 then .error .zeroFilterLength
      else match c.artifacts.find? fun a => !a.supports (c.targetOf a) with
        | some a => .error (.unsupportedTarget a (c.targetOf a))
        | none => .ok ()

end Config
end Scaffold

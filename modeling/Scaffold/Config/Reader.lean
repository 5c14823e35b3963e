/-
Settings read from a table of values. A settings file has values of the right kind; values of the
environment are texts, so there a scalar may stand for one of another kind.
-/
import Scaffold.Config.Basic
import Scaffold.Json.Writer
import Scaffold.Text.Natural

namespace Scaffold
namespace Config

/-- What scalars a source accepts where a text, a flag or a number is wanted. -/
structure Scalars where
  text? : Json → Option String
  flag? : Json → Option Bool
  natural? : Json → Option Nat

/-- Every value has to be of the wanted kind. -/
def exactScalars : Scalars where
  text? := Json.str?
  flag? := Json.bool?
  natural? := fun value => value.nat?.filter (· ≤ Text.maxNatural32)

def flagWord? (s : String) : Option Bool :=
  let word := Text.lowercase s
  if ["1", "true", "on", "yes"].contains word then some true
  else if ["0", "false", "off", "no"].contains word then some false
  else none

def wordNatural? (s : String) : Option Nat :=
  let word := Text.lowercase s
  if ["true", "on", "yes"].contains word then some 1
  else if ["false", "off", "no"].contains word then some 0
  else Text.natural32? s

/-- Scalars stand for each other where their texts or values allow it. -/
def looseScalars : Scalars where
  text?
    | .string s => some s
    | .bool b => some (if b then "true" else "false")
    | .number n => some n.text
    | _ => none
  flag?
    | .bool b => some b
    | .string s => flagWord? s
    | .number (.natural n) => some (n != 0)
    | .number (.negative _) => some true
    | .number (.float x) => some (!x.isZero)
    | _ => none
  natural?
    | .number (.natural n) => if n ≤ Text.maxNatural32 then some n else none
    | .number (.float x) =>
      let (num, den) := x.quotient
      let rounded := (2 * num + den) / (2 * den)
      if (x.negative ∧ rounded ≠ 0) ∨ rounded > Text.maxNatural32 then none else some rounded
    | .bool b => some (if b then 1 else 0)
    | .string s => wordNatural? s
    | _ => none

variable (scalars : Scalars)

/-- A setting that may be null. -/
def optionalText? : Json → Option (Option String)
  | .null => some none
  | value => (scalars.text? value).map some

def textList? : Json → Option (List String)
  | .array items => items.mapM scalars.text?
  | _ => none

/-- One naming setting; names that are no settings are passed over. -/
def setNaming (n : Naming) : String × Json → Option Naming
  | ("root_namespace", v) => do return { n with rootNamespace := ← optionalText? scalars v }
  | ("dto_dir", v) => do return { n with dtoDir := ← scalars.text? v }
  | ("dto_namespace", v) => do return { n with dtoNamespace := ← scalars.text? v }
  | ("manager_dir", v) => do return { n with managerDir := ← scalars.text? v }
  | ("manager_namespace", v) => do return { n with managerNamespace := ← scalars.text? v }
  | ("controller_dir", v) => do return { n with controllerDir := ← scalars.text? v }
  | ("controller_namespace", v) => do return { n with controllerNamespace := ← scalars.text? v }
  | ("client_dir", v) => do return { n with clientDir := ← scalars.text? v }
  | ("client_namespace", v) => do return { n with clientNamespace := ← scalars.text? v }
  | ("filter_base_class", v) => do return { n with filterBaseClass := ← scalars.text? v }
  | ("key_type", v) => do return { n with keyType := ← scalars.text? v }
  | ("ts_types_import", v) => do return { n with tsTypesImport := ← scalars.text? v }
  | ("rust_types_path", v) => do return { n with rustTypesPath := ← scalars.text? v }
  | _ => some n

/-- One setting; names that are no settings are passed over. -/
def set (c : Config) : String × Json → Option Config
  | ("entity_paths", v) => do return { c with entityPaths := ← textList? scalars v }
  | ("include_entities", v) => do return { c with includeEntities := ← scalars.text? v }
  | ("exclude_entities", v) => do return { c with excludeEntities := ← scalars.text? v }
  | ("artifacts", v) => do
    return { c with artifacts := ← (← textList? scalars v).mapM Artifact.ofLabel? }
  | ("output_dir", v) => do return { c with outputDir := ← scalars.text? v }
  | ("dto_target", v) => do return { c with dtoTarget := ← Target.ofName? (← scalars.text? v) }
  | ("client_target", v) => do
    return { c with clientTarget := ← Target.ofName? (← scalars.text? v) }
  | ("naming", v) => do
    return { c with naming := ← (← v.members?).foldlM (setNaming scalars) {} }
  | ("ignore_properties", v) => do return { c with ignoreProperties := ← textList? scalars v }
  | ("filter_max_length", v) => do return { c with filterMaxLength := ← scalars.natural? v }
  | ("templates_dir", v) => do return { c with templatesDir := ← optionalText? scalars v }
  | ("force", v) => do return { c with force := ← scalars.flag? v }
  | ("dry_run", v) => do return { c with dryRun := ← scalars.flag? v }
  | ("log_level", v) => do return { c with logLevel := ← optionalText? scalars v }
  | _ => some c

/-- Reads a table of settings; what is not set has its default. -/
def ofTable? (table : List (String × Json)) : Option Config :=
  table.foldlM (set scalars) {}

end Config
end Scaffold

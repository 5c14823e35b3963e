/-
Settings from a file and from the environment. A variable with the prefix of the program overrides
the setting of its name; two underscores lead into a table.
-/
import Scaffold.Config.Reader
import Scaffold.FileTree
import Scaffold.Toml.Reader
import Scaffold.Yaml.Document

namespace Scaffold
namespace Config

/-- Reads a settings file, in which every value has to be of the right kind. -/
def ofFile (t : FileTree) (path : String) : Except Fault Config :=
  match t.read? path with
  | none => .error .fileSystem
  | some source =>
    let table := (Toml.parse? source).map
      (Toml.membersToJson fun moment => .object [("moment", .string moment)])
    match table.bind (ofTable? exactScalars) with
    | some c => .ok c
    | none => .error .badSettings

/-! ## Tables of settings -/

def formats : List String :=
  ["toml", "json", "yaml", "yml"]

def tableOf? (extension source : String) : Option (List (String × Json)) :=
  match extension with
  | "toml" => (Toml.parse? source).map (Toml.membersToJson .string)
  | "json" => (Json.parse? source).bind Json.members?
  | "yaml" => (Yaml.parse? source).bind Json.members?
  | "yml" => (Yaml.parse? source).bind Json.members?
  | _ => none

/-- Where the settings file of a name may be: at the name itself, or at the name with the extension of
a format. -/
def candidates (name : String) : List String :=
  name :: formats.map (name ++ "." ++ ·)

/-- The path of the settings file of a name. -/
def findFile? (t : FileTree) (name : String) : Option String :=
  (candidates name).find? t.isFile

/-- The name of the settings file that is read if none is asked for. -/
def defaultFile : String := "crudforge"

/-- A text without the mark that some editors put in front. -/
def unmarked (source : String) : String :=
  match source.toList with
  | '\ufeff' :: rest => String.ofList rest
  | _ => source

/-- The table of the settings file that is asked for, or of the usual one if it is there. A usual
file of no format is passed over. -/
def fileTable (t : FileTree) (path : Option String) :
    Except Fault (List (String × Json)) :=
  match findFile? t (path.getD defaultFile), path with
  | some file, _ =>
    let extension := (Path.extension? file).getD ""
    if path.isNone && !formats.contains extension then .ok []
    else match ((t.read? file).map unmarked).bind (tableOf? extension) with
    | some table => .ok table
    | none => .error .badSettings
  | none, some _ => .error .badSettings
  | none, none => .ok []

/-! ## The environment -/

/-- The prefix of variables that are settings. -/
def variableStart : String := "crudforge_"

/-- The keys that a variable stands for, if it is a setting. -/
def variableKeys? (name : String) : Option (List String) :=
  (Text.dropFront? variableStart.toList (Text.lowercase name).toList).map fun rest => go [] rest
where
  go (word : List Char) : List Char → List String
    | '_' :: '_' :: rest => String.ofList word.reverse :: go [] rest
    | c :: rest => go (c :: word) rest
    | [] => [String.ofList word.reverse]

/-- Sets a value some keys down. What is no table on the way becomes one. -/
def setDeep (value : Json) : List String → List (String × Json) → List (String × Json)
  | [], table => table
  | [key], table => Json.setMember key value table
  | key :: rest, table =>
    let inner := ((Json.lookup key table).bind Json.members?).getD []
    Json.setMember key (.object (setDeep value rest inner)) table

/-- Overrides settings by variables of the environment. -/
def override (table : List (String × Json)) (environment : List (String × String)) :
    List (String × Json) :=
  environment.foldl (fun table (name, value) =>
    match variableKeys? name with
    | some keys => setDeep (.string value) keys table
    | none => table) table

/-- The settings of a run, from the file that is asked for and from the environment. -/
def load (t : FileTree) (path : Option String) (environment : List (String × String)) :
    Except Fault Config := do
  match ofTable? looseScalars (override (← fileTable t path) environment) with
  | some c => return c
  | none => throw .badSettings

/-! ## Changes in code -/

def ofInput (path : String) : Config :=
  { entityPaths := [path] }

def addInput (c : Config) (path : String) : Config :=
  { c with entityPaths := c.entityPaths ++ [path] }

def including (c : Config) (names : List String) : Config :=
  { c with includeEntities := Text.join "," names }

def excluding (c : Config) (names : List String) : Config :=
  { c with excludeEntities := Text.join "," names }

def withDtoDir (c : Config) (dir : String) : Config :=
  { c with naming := { c.naming with dtoDir := dir } }

def withRootNamespace (c : Config) (name : String) : Config :=
  { c with naming := { c.naming with rootNamespace := some name } }

end Config
end Scaffold

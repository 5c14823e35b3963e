/-
What a run has to know of its surroundings: the variables it asks for and the paths it looks at. The
settings decide about inputs and these about outputs, so paths come in stages, each named by what the
stages before it have shown.
-/
import Scaffold.Command.Run

namespace Scaffold

namespace Place

/-- The places on the way that a path describes, the last one included. -/
def stations (path : String) : List Place :=
  let (start, parts) := way path
  let step := fun (passed : List Place × Place) (part : String) =>
    let here := passed.2
    let next := if part == "." then here else if part == ".." then here.above else here.child part
    (passed.1 ++ [next], next)
  ((parts.foldl step ([], start)).1.filter (!·.isGiven)).eraseDups

end Place

namespace FileTree

/-- What one tree has and another has not, directories in front of what is in them. -/
def additions (before after : FileTree) : List (Place × Node) :=
  (after.nodes.filter (!before.nodes.contains ·)).mergeSort (·.1.length ≤ ·.1.length)

/-- The tree in which nothing more can be written at a place. -/
def lock (t : FileTree) (p : Place) : FileTree :=
  ⟨t.nodes, p :: t.locked⟩

end FileTree

namespace Config

/-- The variables of the environment that are settings. -/
def variableNames : List String :=
  let top := ["entity_paths", "include_entities", "exclude_entities", "artifacts", "output_dir",
    "dto_target", "client_target", "naming", "ignore_properties", "filter_max_length",
    "templates_dir", "force", "dry_run", "log_level"]
  let inner := ["root_namespace", "dto_dir", "dto_namespace", "manager_dir", "manager_namespace",
    "controller_dir", "controller_namespace", "client_dir", "client_namespace",
    "filter_base_class", "key_type", "ts_types_import", "rust_types_path"]
  (top ++ inner.map ("naming__" ++ ·)).map fun name => Text.uppercase (variableStart ++ name)

end Config

namespace Command

/-- The options of a command line that asks for a run. -/
def options? (args : List String) : Option Options :=
  match parse args with
  | .run o => some o
  | _ => none

/-- The settings of a run, if they can be read. -/
def settings? (t : FileTree) (environment : List (String × String)) (args : List String) :
    Option Config :=
  (options? args).bind fun o => (settings t environment o).toOption

def settingsPaths (args : List String) : List String :=
  match options? args with
  | some o => Config.candidates (o.config.getD Config.defaultFile)
  | none => []

def inputPaths (t : FileTree) (environment : List (String × String)) (args : List String) :
    List String :=
  match settings? t environment args with
  | some c =>
    let templates := match c.templatesDir with
      | some dir => Template.names.map (Path.join dir)
      | none => []
    c.outputDir :: c.entityPaths ++ templates
  | none => []

def outputPaths (t : FileTree) (environment : List (String × String)) (args : List String) :
    List String :=
  match settings? t environment args with
  | some c =>
    match generateFiles t c with
    | .ok output => output.files.map fun f => Path.join c.outputDir f.path
    | .error _ => []
  | none => []

end Command
end Scaffold

/-
Runs: from settings and input files to generated files, and on to what is written.
-/
import Scaffold.Emission
import Scaffold.Generate.Artifacts
import Scaffold.Input.Loader

namespace Scaffold

/-! ## Choice of entities -/

namespace Config

/-- The entries of a list with commas, without blanks around them. -/
def entries (names : String) : List String :=
  (Text.split (· == ',') names).map Text.trim

/-- Whether every entity is included. -/
def includesAll (c : Config) : Bool :=
  let names := Text.trim c.includeEntities
  names == "*" || names.isEmpty

/-- Whether code is generated for the entity of a name. -/
def selects (c : Config) (name : String) : Bool :=
  (c.includesAll || (entries c.includeEntities).contains name) &&
    !((entries c.excludeEntities).filter (!·.isEmpty)).contains name

end Config

/-! ## Templates -/

namespace Library

/-- Replaces a template by the file of its name in a directory, if there is one. -/
def replaceFrom (t : FileTree) (dir : String) (library : Library) (name : String) :
    Except Fault Library :=
  let path := Path.join dir name
  if t.isFile path then
    match t.read? path with
    | some source => library.replace name source
    | none => .error .fileSystem
  else .ok library

/-- The built-in templates with those of a directory in their places. -/
def load (t : FileTree) : Option String → Except Fault Library
  | none => .ok builtin
  | some dir => Template.names.foldlM (replaceFrom t dir) builtin

end Library

/-! ## Runs -/

/-- The generated files of a run, and what failed. -/
structure Output where
  files : List GeneratedFile
  failures : List Failure

namespace Output

/-- Adds the files of an entity. A failure that concerns the entity alone is noted. -/
def addEntity (library : Library) (config : Config) (o : Output) (e : Entity) :
    Except Fault Output :=
  match entityFiles library config e with
  | .ok files => .ok { o with files := o.files ++ files }
  | .error (.input f) => .ok { o with failures := o.failures ++ [f] }
  | .error fault => .error fault

def addDocument (library : Library) (config : Config) (o : Output) (d : Api.Document) :
    Except Fault Output :=
  (documentFiles library config d).map fun files => { o with files := o.files ++ files }

end Output

def generateFiles (t : FileTree) (config : Config) : Except Fault Output := do
  config.validate t.isThere
  let (loaded, _) := Loader.empty.load t config.entityPaths
  let library ← Library.load t config.templatesDir
  let entities := loaded.entities.filter fun e => config.selects e.name
  let output ← entities.foldlM (Output.addEntity library config) ⟨[], loaded.failures⟩
  loaded.documents.foldlM (Output.addDocument library config) output

/-- Generates all files and writes them; a dry run only tells what would be written. -/
def generate (t : FileTree) (config : Config) : FileTree × Except Fault (Output × Report) :=
  match generateFiles t config with
  | .error fault => (t, .error fault)
  | .ok output =>
    if config.dryRun then
      (t, .ok (output, Emission.plan t output.files config.outputDir config.force))
    else
      let (t, report) := Emission.emit t output.files config.outputDir config.force
      (t, report.map (output, ·))

end Scaffold

/-
What the command line program does: its output, its exit code, and the files after it.
-/
import Scaffold.Command.Options
import Scaffold.Config.Load
import Scaffold.Generate.Run

namespace Scaffold
namespace Command

/-- How the program ends: zero if all is well, one if a run fails, two if it is called wrongly. -/
structure Outcome where
  exit : Nat
  output : String
deriving DecidableEq, Repr

def version : String := "crudforge 0.1.0\n"

def unlines (lines : List String) : String :=
  String.join (lines.map (· ++ "\n"))

/-! ## Inspection -/

def propertyLine (p : Property) : String :=
  "    - " ++ p.name ++ ": " ++ p.typeText ++ (if p.isNullable then "?" else "") ++
    (if p.isRequired then " required" else "") ++ (if p.isKey then " key" else "")

def navigationLine (n : Navigation) : String :=
  let shape :=
    if n.isSkip then "many-to-many" else if n.isCollection then "collection" else "reference"
  "    - " ++ n.name ++ " -> " ++ n.typeName ++ " (" ++ shape ++ ", fk: " ++
    n.foreignKey.getD "-" ++ ")"

def entityLines (e : Entity) : List String :=
  ["Entity: " ++ e.name ++ " (" ++ e.namespaceName ++ ")", "  Properties:"] ++
    e.properties.map propertyLine ++
    (if e.navigations.isEmpty then [] else "  Navigations:" :: e.navigations.map navigationLine) ++
    [""]

def documentLines (d : Api.Document) : List String :=
  ["Document: " ++ d.title ++ " " ++ d.version, "  Types: " ++ toString d.types.entries.length,
    "  Operations:"] ++
    d.operations.map (fun op => "    - [" ++ op.tag ++ "] " ++ op.method ++ " " ++ op.path) ++ [""]

def inspection (l : Loaded) : String :=
  unlines (["Extracted " ++ toString l.entities.length ++ " entities:", ""] ++
    l.entities.flatMap entityLines ++ l.documents.flatMap documentLines ++
    l.failures.map fun f => "Failed: " ++ f.path ++ ": " ++ f.reason)

/-! ## Generation -/

def preview (r : Report) : String :=
  unlines ("Dry run mode - would generate:" :: r.written.map ("  write: " ++ ·) ++
    r.skipped.map fun path => "  skip:  " ++ path ++ " (exists)")

def runWith (t : FileTree) (task : Option Task) (c : Config) : FileTree × Outcome :=
  if task = some .inspect then (t, ⟨0, inspection (Loader.empty.load t c.entityPaths).1⟩)
  else
    match generate t c with
    | (t, .ok (_, report)) => (t, ⟨0, if c.dryRun then preview report else ""⟩)
    | (t, .error _) => (t, ⟨1, ""⟩)

/-- The settings that a request leads to. -/
def settings (t : FileTree) (environment : List (String × String)) (o : Options) :
    Except Fault Config :=
  (Config.load t o.config environment).map o.apply

def run (t : FileTree) (environment : List (String × String)) (args : List String) :
    FileTree × Outcome :=
  match parse args with
  | .version => (t, ⟨0, version⟩)
  | .misuse => (t, ⟨2, ""⟩)
  | .run o =>
    match settings t environment o with
    | .ok c => runWith t o.task c
    | .error _ => (t, ⟨1, ""⟩)

end Command
end Scaffold

/-
Loading input files: every file is read once, all classes share one context, and what fails does not
keep the rest from being loaded.
-/
import Scaffold.FileTree
import Scaffold.Input.Extract
import Scaffold.Input.Source

namespace Scaffold

/-- Everything that comes of the input files. Entity names are unique. -/
structure Loaded where
  entities : List Entity
  documents : List Api.Document
  failures : List Failure

namespace Loaded

def empty : Loaded :=
  ⟨[], [], []⟩

def fail (l : Loaded) (f : Failure) : Loaded :=
  { l with failures := l.failures ++ [f] }

/-- Notes a failure, unless the same one is noted already. -/
def failOnce (l : Loaded) (f : Failure) : Loaded :=
  if l.failures.contains f then l else l.fail f

/-- Takes over the entity of an input, or the failure to extract it. A second entity of a name is
a failure that names the file of the first. -/
def add (l : Loaded) (path : String) : Except Failure Entity → Loaded
  | .error f => l.failOnce f
  | .ok e =>
    match l.entities.find? (·.name == e.name) with
    | some first => l.failOnce ⟨path, .duplicateEntity e.name (first.filePath.getD "")⟩
    | none => { l with entities := l.entities ++ [{ e with filePath := e.filePath.or (some path) }] }

def addAll (l : Loaded) (path : String) (results : List (Except Failure Entity)) : Loaded :=
  results.foldl (·.add path ·) l

def addDocument (l : Loaded) : Except Failure Api.Document → Loaded
  | .ok d => { l with documents := l.documents ++ [d] }
  | .error f => l.fail f

end Loaded

namespace Source

/-- The declarations that the classes of other files can refer to. -/
def shared : Source → List Declaration
  | .declarations ds => ds
  | _ => []

/-- What the entities of a source come of. Classes made from tables only know each other. -/
def inputs (context : Context) (path : String) : Source → List EntityInput
  | .declarations ds => (ds.filter (!·.isEnum)).map (.declaration context)
  | .relational model ds =>
    (ds.filter (!·.isEnum)).map (.relational (Context.ofDeclarations ds) model)
  | .document value => (Api.objectSchemaNames value).map fun name => .schema value name path

def entities (context : Context) (path : String) (s : Source) : List (Except Failure Entity) :=
  (s.inputs context path).map (·.extract)

def load (context : Context) (l : Loaded) (path : String) (s : Source) : Loaded :=
  let l := match s with
    | .document value => l.addDocument (Api.load value path)
    | _ => l
  l.addAll path (s.entities context path)

end Source

/-- The sources read so far, by path. Paths that differ in empty parts and dots only are the
same. -/
structure Loader where
  read : List (String × Source)

namespace Loader

def empty : Loader :=
  ⟨[]⟩

def samePath (a b : String) : Bool :=
  Path.isAbsolute a == Path.isAbsolute b && Path.components a == Path.components b

def find? (l : Loader) (path : String) : Option Source :=
  (l.read.find? fun r => samePath r.1 path).map (·.2)

/-- The source at a path, which is read from the tree only if it is not known yet. -/
def source (l : Loader) (t : FileTree) (path : String) : Except Failure (Source × Loader) :=
  match l.find? path with
  | some s => .ok (s, l)
  | none =>
    match t.read? path with
    | none => .error ⟨path, .unreadableFile⟩
    | some text => (Source.ofText text path).map fun s => (s, ⟨(path, s) :: l.read⟩)

/-- Reads the sources at some paths; each is taken once, and one that cannot be read is a
failure as often as it is listed. -/
def readAll (l : Loader) (t : FileTree) (paths : List String) :
    Loader × List (String × Source) × List Failure :=
  paths.foldl (fun (l, sources, failures) path =>
    if sources.any fun s => samePath s.1 path then (l, sources, failures)
    else
      match l.source t path with
      | .ok (s, l) => (l, sources ++ [(path, s)], failures)
      | .error f => (l, sources, failures ++ [f])) (l, [], [])

def load (l : Loader) (t : FileTree) (paths : List String) : Loaded × Loader :=
  let (l, sources, failures) := l.readAll t paths
  let context := Context.ofDeclarations (sources.flatMap fun s => s.2.shared)
  let start : Loaded := ⟨[], [], failures⟩
  (sources.foldl (fun loaded s => s.2.load context loaded s.1) start, l)

end Loader
end Scaffold

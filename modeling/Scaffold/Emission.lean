/-
Writing generated files. Files that are there already stay as they are, unless they are to be
overwritten; a file that cannot be written does not keep the others from being written.
-/
import Scaffold.Config.Basic
import Scaffold.FileTree
import Scaffold.Generate.File

namespace Scaffold

/-- What becomes of a generated file. -/
inductive Fate where
  | written
  | skipped
  | failed
deriving DecidableEq, Repr

/-- What became of the generated files, by their paths, in the order of the files. -/
structure Report where
  written : List String
  skipped : List String
  failed : List String
deriving DecidableEq, Repr

namespace Report

def empty : Report :=
  ⟨[], [], []⟩

def isEmpty (r : Report) : Bool :=
  r.written.isEmpty && r.skipped.isEmpty && r.failed.isEmpty

def ofFates (fates : List (String × Fate)) : Report :=
  let having := fun fate : Fate => (fates.filter (·.2 = fate)).map (·.1)
  ⟨having .written, having .skipped, having .failed⟩

def append (a b : Report) : Report :=
  ⟨a.written ++ b.written, a.skipped ++ b.skipped, a.failed ++ b.failed⟩

end Report

namespace Emission

def step (root : String) (force : Bool) (t : FileTree) (f : GeneratedFile) :
    FileTree × String × Fate :=
  let path := Path.join root f.path
  if t.isThere path && !force then (t, path, .skipped)
  else
    let (t, isWritten) := t.write path f.content
    (t, path, if isWritten then .written else .failed)

def run (root : String) (force : Bool) (t : FileTree) :
    List GeneratedFile → FileTree × List (String × Fate)
  | [] => (t, [])
  | f :: rest =>
    let (t, fate) := step root force t f
    let (t, fates) := run root force t rest
    (t, fate :: fates)

/-- Writes files below a root, which is made first. -/
def emit (t : FileTree) (files : List GeneratedFile) (root : String) (force : Bool) :
    FileTree × Except Fault Report :=
  match t.makeDirectory root with
  | (t, true) =>
    let (t, fates) := run root force t files
    (t, .ok (.ofFates fates))
  | (t, false) => (t, .error .fileSystem)

/-- What writing the files would come to, nothing being written. -/
def plan (t : FileTree) (files : List GeneratedFile) (root : String) (force : Bool) : Report :=
  .ofFates (files.map fun f =>
    let path := Path.join root f.path
    (path, if t.isThere path && !force then .skipped else .written))

end Emission
end Scaffold

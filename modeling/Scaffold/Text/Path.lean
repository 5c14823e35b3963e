/-
File paths as texts with slashes.
-/
import Scaffold.Text.Split

namespace Scaffold
namespace Path

def isAbsolute (path : String) : Bool :=
  Text.startsWith "/" path

/-- The path of `name` in a directory; an absolute name stands for itself. -/
def join (dir name : String) : String :=
  if isAbsolute name || dir.isEmpty then name
  else if Text.endsWith "/" dir then dir ++ name
  else dir ++ "/" ++ name

/-- The parts between slashes that say something: no empty ones, and no dots alone but one at
the start of a relative path. -/
def components (path : String) : List String :=
  match (Text.split (· == '/') path).filter (!·.isEmpty) with
  | "." :: rest =>
    if isAbsolute path then rest.filter (· != ".") else "." :: rest.filter (· != ".")
  | parts => parts.filter (· != ".")

/-- The last part, unless the path ends with two dots or has no parts. -/
def fileName? (path : String) : Option String :=
  match (components path).getLast? with
  | some ".." => none
  | some "." => none
  | name => name

/-- A file name in two at its last dot. A dot at the start belongs to the name. -/
def splitExtension (name : String) : String × Option String :=
  let cs := name.toList
  let after := Text.afterLast (· == '.') cs
  if after.length = cs.length then (name, none)
  else
    let stem := cs.take (cs.length - after.length - 1)
    if stem.isEmpty then (name, none) else (String.ofList stem, some (String.ofList after))

def extension? (path : String) : Option String :=
  (fileName? path).bind fun name => (splitExtension name).2

/-- The file name without its extension. -/
def stem? (path : String) : Option String :=
  (fileName? path).map fun name => (splitExtension name).1

end Path
end Scaffold

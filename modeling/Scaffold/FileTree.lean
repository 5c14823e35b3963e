/-
Files and directories as a value: what is at a path, and the tree after something is written.
-/
import Scaffold.Text.Path

namespace Scaffold

/-- Where a path leads: the names on the way from the working directory. Two dots at the start lead
above it, and a slash stands for the root. -/
abbrev Place := List String

namespace Place

/-- Whether the place is a directory whatever the tree holds: the working directory, one above it,
or the root. -/
def isGiven (p : Place) : Bool :=
  p == ["/"] || p.all (· == "..")

def above (p : Place) : Place :=
  if p == ["/"] then p else if p.all (· == "..") then ".." :: p else p.dropLast

def child (p : Place) (name : String) : Place :=
  p ++ [name]

/-- The way that a path describes, and where it starts. A slash at the end asks for a directory, as
a dot does. -/
def way (path : String) : Place × List String :=
  let parts := (Text.split (· == '/') path).filter (!·.isEmpty)
  (if Path.isAbsolute path then ["/"] else [],
    if Text.endsWith "/" path then parts ++ ["."] else parts)

def path (p : Place) : String :=
  match p with
  | "/" :: names => "/" ++ Text.join "/" names
  | names => Text.join "/" names

end Place

/-- A directory, or a file with its text; a file whose bytes are no text has none. -/
inductive Node where
  | directory
  | file (text : Option String)
deriving DecidableEq, Repr

structure FileTree where
  nodes : List (Place × Node)
  /-- Places where nothing can be written. -/
  locked : List Place
deriving Repr

namespace FileTree

def empty : FileTree :=
  ⟨[], []⟩

def find? (t : FileTree) (p : Place) : Option Node :=
  if p.isGiven then some .directory else t.nodes.lookup p

def set (t : FileTree) (p : Place) (n : Node) : FileTree :=
  ⟨(p, n) :: t.nodes.filter (·.1 != p), t.locked⟩

/-- Takes away what is at a place and below it. -/
def erase (t : FileTree) (p : Place) : FileTree :=
  ⟨t.nodes.filter fun n => !p.isPrefixOf n.1, t.locked⟩

/-! ## Looking -/

/-- Goes one step from a directory. -/
def enter (t : FileTree) (here : Place) (part : String) : Option Place :=
  if t.find? here = some .directory then
    some (if part == "." then here else if part == ".." then here.above else here.child part)
  else none

/-- The place that a path leads to, if there are directories all the way. -/
def locate? (t : FileTree) (path : String) : Option Place :=
  if path.isEmpty then none
  else
    let (start, parts) := Place.way path
    parts.foldlM t.enter start

def node? (t : FileTree) (path : String) : Option Node :=
  (t.locate? path).bind t.find?

def isThere (t : FileTree) (path : String) : Bool :=
  (t.node? path).isSome

def isFile (t : FileTree) (path : String) : Bool :=
  match t.node? path with
  | some (.file _) => true
  | _ => false

def read? (t : FileTree) (path : String) : Option String :=
  match t.node? path with
  | some (.file text) => text
  | _ => none

/-! ## Writing -/

/-- Goes a way and makes the directories that are missing on it. What was made stays made even if
something is in the way further on. -/
def makeWay (t : FileTree) (here : Place) : List String → FileTree × Option Place
  | [] => (t, if t.find? here = some .directory then some here else none)
  | part :: rest =>
    match t.enter here part with
    | none => (t, none)
    | some next =>
      match t.find? next with
      | some _ => t.makeWay next rest
      | none =>
        if t.locked.contains next then (t, none)
        else (t.set next .directory).makeWay next rest

/-- Makes a directory, and those above it; tells whether it is there. -/
def makeDirectory (t : FileTree) (path : String) : FileTree × Bool :=
  let (start, parts) := Place.way path
  let (t, place) := t.makeWay start parts
  (t, place.isSome)

/-- Writes a file in a directory; tells whether it is written. -/
def writeIn (t : FileTree) (directory : Place) (name text : String) : FileTree × Bool :=
  let place := directory.child name
  if name == "." || name == ".." || t.find? place = some .directory || t.locked.contains place then
    (t, false)
  else (t.set place (.file (some text)), true)

/-- Writes a file, with the directories above it; tells whether it is written. -/
def write (t : FileTree) (path text : String) : FileTree × Bool :=
  let (start, parts) := Place.way path
  match parts.getLast? with
  | none => (t, false)
  | some name =>
    match t.makeWay start parts.dropLast with
    | (t, some directory) => t.writeIn directory name text
    | (t, none) => (t, false)

/-- The paths of all that is below the working directory, in order; those of directories end with a
slash. -/
def paths (t : FileTree) : List String :=
  let here := t.nodes.filter fun n => !n.1.isGiven && n.1.head? != some ".." && n.1.head? != some "/"
  let listed := here.map fun (p, n) =>
    match n with
    | .directory => Place.path p ++ "/"
    | .file _ => Place.path p
  listed.mergeSort (· ≤ ·)

end FileTree
end Scaffold

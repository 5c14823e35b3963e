/-
Items of a source file: records, enums, uses and modules with their attributes. Of other items only
their attributes are kept.
-/
import Scaffold.Code.Type

namespace Scaffold
namespace Code

/-- A path of names; `leading` says that it starts with a separator. -/
structure NamePath where
  leading : Bool
  names : List String
deriving DecidableEq, Repr

namespace NamePath

/-- Whether the path is one name and nothing else. -/
def isWord (p : NamePath) (text : String) : Bool :=
  p = ⟨false, [text]⟩

/-- The name of a path that is one name, and nothing for a longer path. -/
def wordOrEmpty (p : NamePath) : String :=
  match p with
  | ⟨false, [text]⟩ => text
  | _ => ""

end NamePath

/-- What an attribute says behind its path. -/
inductive MarkContent where
  | none
  | list (bracket : Bracket) (content : List Tree)
  | value (content : List Tree)

/-- An attribute. An inner one belongs to what it stands in, another one to what follows. -/
structure Mark where
  isInner : Bool
  path : NamePath
  content : MarkContent

/-- The text of an attribute that documents. -/
def Mark.document? (m : Mark) : Option String :=
  match m.path.isWord "doc", m.content with
  | true, .value [.literal ⟨_, .text s⟩] => some s
  | _, _ => none

inductive Visibility where
  | inherited
  | everywhere
  /-- Visible in a part of the program, which is kept as written. -/
  | within (scope : List Tree)

namespace Visibility

def isPublic : Visibility → Bool
  | .everywhere => true
  | _ => false

end Visibility

/-- A field of a record; positional fields have no name. -/
structure RecordField where
  marks : List Mark
  visibility : Visibility
  name : Option String
  type : Ty

inductive Fields where
  | named (fields : List RecordField)
  | positional (fields : List RecordField)
  | unit

structure Variant where
  marks : List Mark
  name : String
  fields : Fields

inductive UseTree where
  | path (name : String) (rest : UseTree)
  | name (text : String)
  | renamed (text name : String)
  | all
  | group (items : List UseTree)
  /-- An item of a group that starts at the root. -/
  | rooted (rest : UseTree)

inductive ItemKind where
  /-- A record; `plain` says that it has no parameters and no conditions. -/
  | record (name : String) (plain : Bool) (fields : Fields)
  | enumeration (name : String) (variants : List Variant)
  | use (leading : Bool) (tree : UseTree)
  /-- A module in a file of its own. -/
  | module (name : String)
  | other

structure Item where
  marks : List Mark
  visibility : Visibility
  kind : ItemKind

/-- A source file. The first line may say how to run it. -/
structure SourceFile where
  runLine : Option String
  marks : List Mark
  items : List Item

end Code
end Scaffold

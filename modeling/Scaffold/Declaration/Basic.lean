/-
Declarations: classes and enums as a source file declares them, with attributes and comments.
-/
import Scaffold.KeyMap
import Scaffold.Text.Natural

namespace Scaffold

/-- An attribute such as `[StringLength(50, MinimumLength = 2)]`. -/
structure Attribute where
  name : String
  /-- Positional arguments; texts are held without their quotes. -/
  arguments : List String
  named : KeyMap String

namespace Attribute

def plain (name : String) (arguments : List String) : Attribute :=
  ⟨name, arguments, .empty⟩

/-- The name without qualifiers and without the ending `Attribute`. -/
def shortName (a : Attribute) : String :=
  let last := Text.afterLast (fun c => c == '.' || c == ':') a.name.toList
  String.ofList ((Text.dropBack? "Attribute".toList last).getD last)

def number? (a : Attribute) (index : Nat) : Option Nat :=
  a.arguments[index]?.bind fun s => Text.natural32? (Text.trim s)

def namedNumber? (a : Attribute) (name : String) : Option Nat :=
  (a.named.get? name).bind fun s => Text.natural32? (Text.trim s)

def find? (attributes : List Attribute) (name : String) : Option Attribute :=
  attributes.find? (·.shortName == name)

end Attribute

structure PropertyDeclaration where
  name : String
  /-- The type as written. -/
  typeText : String
  isPublic : Bool
  hasSetter : Bool
  isStatic : Bool
  attributes : List Attribute
  comment : Option String
  defaultValue : Option String

namespace PropertyDeclaration

/-- A public property with a setter and no attributes. -/
def plain (name typeText : String) : PropertyDeclaration :=
  ⟨name, typeText, true, true, false, [], none, none⟩

def attribute? (p : PropertyDeclaration) (name : String) : Option Attribute :=
  Attribute.find? p.attributes name

def has (p : PropertyDeclaration) (name : String) : Bool :=
  (p.attribute? name).isSome

/-- Whether the property belongs to the entity: it can be read and set by everyone, and is not
marked as left out. -/
def isMapped (p : PropertyDeclaration) : Bool :=
  p.isPublic && p.hasSetter && !p.isStatic && !p.has "NotMapped" && !p.has "JsonIgnore"

def foreignKey? (p : PropertyDeclaration) : Option String :=
  (p.attribute? "ForeignKey").bind (·.arguments.head?)

end PropertyDeclaration

/-- A class or an enum as declared. -/
structure Declaration where
  name : String
  namespaceName : String
  moduleName : Option String
  isEnum : Bool
  /-- The base class by name, possibly qualified. -/
  base : Option String
  comment : Option String
  attributes : List Attribute
  properties : List PropertyDeclaration
  /-- The member names of an enum. -/
  members : List String
  filePath : Option String

namespace Declaration

def plain (name namespaceName : String) : Declaration :=
  ⟨name, namespaceName, none, false, none, none, [], [], [], none⟩

def baseName? (d : Declaration) : Option String :=
  d.base.map fun base => String.ofList (Text.afterLast (· == '.') base.toList)

end Declaration

/-- A line of a comment without blanks and comment slashes around its text. -/
def commentLine (line : List Char) : List Char :=
  let rec dropSlashes : List Char → List Char
    | '/' :: '/' :: '/' :: rest => dropSlashes rest
    | cs => cs
  Text.dropBlankEnd (Text.dropBlank (dropSlashes (Text.dropBlankEnd (Text.dropBlank line))))

/-- The inside of the first summary element, or the whole comment when there is none. -/
def summarySection (cs : List Char) : List Char :=
  match Text.cutAt? "<summary>".toList cs, Text.cutAt? "</summary>".toList cs with
  | some (before, after), some (inside, _) =>
    if before.length < inside.length then
      after.take (inside.length - before.length - "<summary>".length)
    else cs
  | _, _ => cs

/-- The text of a comment in one line; nothing if no text is left. -/
def summaryText (comment : String) : Option String :=
  let lines := (Text.lines (summarySection comment.toList)).map commentLine
  let text := Text.join " " ((lines.filter (!·.isEmpty)).map String.ofList)
  if text.isEmpty then none else some text

end Scaffold

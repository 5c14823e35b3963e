/-
Declarations from a source file: records with named fields become classes, and enums become enums.
What the attributes `crud` and `serde` say is taken over.
-/
import Scaffold.Code.ItemReader
import Scaffold.Declaration.Basic
import Scaffold.Failure
import Scaffold.Text.Case

namespace Scaffold
namespace Code

/-- Reading the inside of an attribute, or the cause why it cannot be used. -/
abbrev Marking (α : Type) := StateT (List Tree) (Except Cause) α

namespace Marking

/-- A step that fails where the source cannot be read. -/
def ofRead {α : Type} (read : Read α) : Marking α :=
  fun ts => match read ts with
  | some result => .ok result
  | none => .error .invalidSyntax

def path : Marking NamePath := ofRead do
  let leading ← Read.sign? "::"
  let first ← Read.anyWord
  let rest ← Reading.many do
    if ← Read.sign? "::" then return some (← Read.anyWord) else return none
  return ⟨leading, first :: rest⟩

def assignedText : Marking String := ofRead do
  Read.sign "="
  match ← Read.literal? with
  | some ⟨_, .text s⟩ => return s
  | _ => Reading.fail

/-- The number that is assigned; it has at most 32 bits. -/
def assignedNumber : Marking Nat := ofRead do
  Read.sign "="
  match ← Read.literal? with
  | some ⟨_, .integer n⟩ => if n ≤ Text.maxNatural32 then return n else Reading.fail
  | _ => Reading.fail

/-- Reads entries with commas between them to the end; `entry` reads what stands behind a path. -/
def entries {α : Type} (entry : NamePath → Marking α) : Marking (List α) :=
  fun ts => go (ts.length + 1) ts
where
  go : Nat → Marking (List α)
    | 0 => ofRead Reading.fail
    | fuel + 1 => do
      if ← ofRead Read.atEnd then return []
      let a ← entry (← path)
      if ← ofRead Read.atEnd then return [a]
      ofRead (Read.sign ",")
      return a :: (← go fuel)

end Marking

/-- The entries of all attributes of a name. Each has to be a list. -/
def entriesOf {α : Type} (name : String) (entry : NamePath → Marking α) (marks : List Mark) :
    Except Cause (List α) := do
  let found ← (marks.filter (·.path.isWord name)).mapM fun m =>
    match m.content with
    | .list _ content => (Marking.entries entry content).map (·.1)
    | _ => .error .invalidSyntax
  return found.flatten

/-! ## Items -/

inductive ItemEntry where
  | namespaceName (name : String)
  | moduleName (name : String)
  | skip

def ItemEntry.read (p : NamePath) : Marking ItemEntry := do
  if p.isWord "namespace" then return .namespaceName (← Marking.assignedText)
  else if p.isWord "module" then return .moduleName (← Marking.assignedText)
  else if p.isWord "skip" then return .skip
  else throw (.unknownMark p.wordOrEmpty)

/-- What the attributes of an item say of it. A later entry overrides an earlier one. -/
structure ItemSettings where
  namespaceName : String
  moduleName : Option String
  skipped : Bool

def ItemSettings.add (s : ItemSettings) : ItemEntry → ItemSettings
  | .namespaceName name => ⟨name, s.moduleName, s.skipped⟩
  | .moduleName name => ⟨s.namespaceName, some name, s.skipped⟩
  | .skip => ⟨s.namespaceName, s.moduleName, true⟩

def ItemSettings.ofMarks (marks : List Mark) : Except Cause ItemSettings := do
  return (← entriesOf "crud" ItemEntry.read marks).foldl add ⟨"", none, false⟩

/-- The text of the comments that document an item, a line for each; nothing if all lines are
empty. -/
def documentation (marks : List Mark) : Option String :=
  let lines := (marks.filterMap Mark.document?).map Text.trim
  if lines.all (·.isEmpty) then none else some (Text.join "\n" lines)

/-! ## Fields -/

/-- The attribute that an entry at a field stands for. -/
def fieldEntry (p : NamePath) : Marking Attribute := do
  if p.isWord "required" then return .plain "Required" []
  else if p.isWord "key" then return .plain "Key" []
  else if p.isWord "index" then return .plain "Index" []
  else if p.isWord "skip" then return .plain "NotMapped" []
  else if p.isWord "max_length" then
    return .plain "MaxLength" [toString (← Marking.assignedNumber)]
  else if p.isWord "min_length" then
    return .plain "MinLength" [toString (← Marking.assignedNumber)]
  else if p.isWord "foreign_key" then return .plain "ForeignKey" [← Marking.assignedText]
  else throw (.unknownMark p.wordOrEmpty)

/-- Whether a literal comes next that no sign follows. -/
def atLoneLiteral : Read Bool :=
  fun ts => some (match ts with
    | .literal _ :: .sign _ _ :: _ => false
    | .literal _ :: _ => true
    | _ => false, ts)

/-- Passes over the value that is assigned, if there is one: a literal that no sign follows, or what
stands up to the next comma. -/
def skipAssigned : Read Unit := do
  if ← Read.sign? "=" then
    if (← Read.atEnd) || (← Read.atSign ",") then Reading.fail
    else if ← atLoneLiteral then
      let _ ← Read.anyTree
    else Read.skipUntil (Read.isSign ',')

/-- Whether the entries of an attribute leave out a field, as often as they say so. Entries behind
one that cannot be read do not count. -/
def omissions : Nat → List Tree → List Attribute
  | 0, _ => []
  | fuel + 1, ts =>
    match Marking.path ts with
    | .ok (p, ts) =>
      let here := if p.isWord "skip" then [Attribute.plain "JsonIgnore" []] else []
      match skipAssigned ts with
      | some ((), .sign ',' _ :: rest) => here ++ omissions fuel rest
      | _ => here
    | .error _ => []

/-- The attributes of a field: those of `crud`, which have to be known, and omissions. -/
def fieldAttributes (marks : List Mark) : Except Cause (List Attribute) := do
  let found ← marks.mapM fun m =>
    if m.path.isWord "serde" then
      match m.content with
      | .list _ content => .ok (omissions (content.length + 1) content)
      | _ => .ok []
    else if m.path.isWord "crud" then entriesOf "crud" fieldEntry [m]
    else .ok []
  return found.flatten

def propertyName (field : String) : String :=
  Text.pascalCase (match field.toList with
    | 'r' :: '#' :: rest => String.ofList rest
    | _ => field)

def property (owner : String) (f : RecordField) : Except Cause PropertyDeclaration := do
  let field := f.name.getD ""
  match f.type.text? with
  | none => throw (.unsupportedType owner field)
  | some typeText =>
    let attributes ← fieldAttributes f.marks
    return ⟨propertyName field, typeText, f.visibility.isPublic, true, false, attributes,
      documentation f.marks, none⟩

/-! ## Files -/

def Item.declaration? (path : String) (item : Item) : Except Cause (Option Declaration) := do
  let settings ← match item.kind with
    | .record _ _ _ | .enumeration _ _ => ItemSettings.ofMarks item.marks
    | _ => pure ⟨"", none, true⟩
  if settings.skipped then return none
  let declare (name : String) (isEnum : Bool) (properties : List PropertyDeclaration)
      (members : List String) : Declaration :=
    ⟨name, settings.namespaceName, settings.moduleName, isEnum, none, documentation item.marks, [],
      properties, members, some path⟩
  match item.kind with
  | .record name _ (.named fields) =>
    return some (declare name false (← fields.mapM (property name)) [])
  | .enumeration name variants => return some (declare name true [] (variants.map (·.name)))
  | _ => return none

def declarations (path source : String) : Except Failure (List Declaration) :=
  let result : Except Cause (List Declaration) := do
    let file ← match SourceFile.read? source with
      | some file => pure file
      | none => throw .invalidSyntax
    return (← file.items.mapM (Item.declaration? path)).filterMap id
  result.mapError (⟨path, ·⟩)

end Code
end Scaffold

/-
Declarations read from document records. A record is an object, whose unknown members are
ignored, or the list of its fields in order. The first thing wrong decides the failure; fields
that have to be there are missed only when everything else is right.
-/
import Scaffold.Declaration.Basic
import Scaffold.Failure
import Scaffold.Json.Basic

namespace Scaffold
namespace Declaration

/-- What reading a part of a record gives. -/
abbrev Reading := Except Cause

def readText : Json → Reading String
  | .string s => .ok s
  | _ => .error .invalidRecord

def readFlag : Json → Reading Bool
  | .bool b => .ok b
  | _ => .error .invalidRecord

def readOptional {α : Type} (read : Json → Reading α) : Json → Reading (Option α)
  | .null => .ok none
  | value => (read value).map some

def readList {α : Type} (read : Json → Reading α) : Json → Reading (List α)
  | .array items => items.mapM read
  | _ => .error .invalidRecord

def readTexts : Json → Reading (List String) :=
  readList readText

def readTextMap : Json → Reading (KeyMap String)
  | .object members =>
    members.foldlM (fun map (key, value) => (readText value).map (map.insert key)) .empty
  | _ => .error .invalidRecord

/-- Reads a record field by field: `set` takes over the value of a field, and ignores names that
it does not know; `required` are the fields without a default, `fields` all of them in order. -/
def readRecord {α : Type} (fields required : List String) (start : α)
    (set : α → String → Json → Reading α) : Json → Reading α
  | .object members => do
    let record ← members.foldlM (fun record (key, value) =>
      if fields.contains key then set record key value else .ok record) start
    match required.find? fun field => !members.any (·.1 == field) with
    | some field => .error (.missingField field)
    | none => .ok record
  | .array items => do
    let record ← (fields.zip items).foldlM (fun record (key, value) => set record key value) start
    if items.length < required.length ∨ fields.length < items.length then .error .invalidRecord
    else .ok record
  | _ => .error .invalidRecord

def readAttribute : Json → Reading Attribute :=
  readRecord ["name", "arguments", "named"] ["name"] (.plain "" []) fun a key value =>
    match key with
    | "name" => do return { a with name := ← readText value }
    | "arguments" => do return { a with arguments := ← readTexts value }
    | _ => do return { a with named := ← readTextMap value }

def readProperty : Json → Reading PropertyDeclaration :=
  readRecord
    ["name", "type", "is_public", "has_setter", "is_static", "attributes", "comment",
      "default_value"]
    ["name", "type"] (.plain "" "") fun p key value =>
    match key with
    | "name" => do return { p with name := ← readText value }
    | "type" => do return { p with typeText := ← readText value }
    | "is_public" => do return { p with isPublic := ← readFlag value }
    | "has_setter" => do return { p with hasSetter := ← readFlag value }
    | "is_static" => do return { p with isStatic := ← readFlag value }
    | "attributes" => do return { p with attributes := ← readList readAttribute value }
    | "comment" => do return { p with comment := ← readOptional readText value }
    | _ => do return { p with defaultValue := ← readOptional readText value }

/-- Whether the kind says that the declaration is an enum; the word may stand alone or name a
member without a value. -/
def readKind : Json → Reading Bool
  | .string "class" => .ok false
  | .string "enum" => .ok true
  | .object [("class", .null)] => .ok false
  | .object [("enum", .null)] => .ok true
  | _ => .error .invalidRecord

def ofRecord : Json → Reading Declaration :=
  readRecord
    ["name", "namespace", "module", "kind", "base", "comment", "attributes", "properties",
      "members"]
    ["name"] (.plain "" "") fun d key value =>
    match key with
    | "name" => do return { d with name := ← readText value }
    | "namespace" => do return { d with namespaceName := ← readText value }
    | "module" => do return { d with moduleName := ← readOptional readText value }
    | "kind" => do return { d with isEnum := ← readKind value }
    | "base" => do return { d with base := ← readOptional readText value }
    | "comment" => do return { d with comment := ← readOptional readText value }
    | "attributes" => do return { d with attributes := ← readList readAttribute value }
    | "properties" => do return { d with properties := ← readList readProperty value }
    | _ => do return { d with members := ← readTexts value }

/-- Reads a document that is one declaration or a list of them, and notes the file they are in. -/
def ofDocument (path : String) (document : Json) : Except Failure (List Declaration) :=
  let records := match document with
    | .array items => items
    | single => [single]
  records.mapM fun record =>
    match ofRecord record with
    | .ok d => .ok { d with filePath := some path }
    | .error cause => .error ⟨path, cause⟩

end Declaration
end Scaffold

/-
Methods of an interface. Operations of one tag are told apart by their methods exactly when their names are
spelled differently (`Document.nodup_methodNames_iff`): an identifier by its words, and for an operation
without one the method and the fixed segments of the path by theirs.
-/
import Scaffold.Generate.Client
import Scaffold.Generate.Controller
import Scaffold.Proofs.Keyed
import Scaffold.Proofs.Text.Camel

namespace Scaffold
namespace Api

namespace Operation

/-- The segments of a path that are no parameters. -/
def fixedSegments (path : String) : List String :=
  (Text.split (· == '/') path).filter fun segment =>
    !segment.isEmpty && !Text.startsWith "\x7b" segment

/-- The identifier of an operation, if it has a visible one. -/
def visibleId? (op : Operation) : Option String :=
  op.operationId.filter (!Text.isBlankText ·)

/-- What the method of an operation is named after. -/
def title (op : Operation) : String :=
  match op.visibleId? with
  | some id => id
  | none => Text.join "_" (Text.lowercase op.method :: fixedSegments op.path)

/-- How the name of an operation is spelled. -/
def spelling (op : Operation) : List (List Char) :=
  match op.visibleId? with
  | some id => Text.spelling id
  | none => Text.glued ((Text.lowercase op.method :: fixedSegments op.path).flatMap Text.smallWords)

variable {op op' : Operation} {target : Target}

theorem operationMethodName_eq (op : Operation) :
    operationMethodName op.operationId op.method op.path = Text.camelCase op.title := by
  unfold operationMethodName title visibleId?
  cases op.operationId.filter (!Text.isBlankText ·) <;> rfl

theorem spelling_title (op : Operation) : Text.spelling op.title = op.spelling := by
  unfold title spelling
  split
  · rfl
  · rw [Text.spelling, Text.smallWords_join]

/-- In C# the name of a method is taken apart once more, so that the ends of its words have to be seen. -/
theorem pascalCase_methodName_eq_iff (ascii : Text.IsAscii op.title) (ascii' : Text.IsAscii op'.title)
    (parted : Text.Parted op.spelling) (parted' : Text.Parted op'.spelling) :
    Text.pascalCase (Text.camelCase op.title) = Text.pascalCase (Text.camelCase op'.title) ↔
      op.spelling = op'.spelling := by
  rw [← spelling_title] at parted parted'
  rw [Text.pascalCase_eq_iff (Text.isAscii_camelCase ascii) (Text.isAscii_camelCase ascii'),
    Text.spelling_camelCase ascii parted, Text.spelling_camelCase ascii' parted', spelling_title,
    spelling_title]

theorem methodName_eq_iff (ascii : Text.IsAscii op.title) (ascii' : Text.IsAscii op'.title)
    (parted : target = .csharp → Text.Parted op.spelling ∧ Text.Parted op'.spelling) :
    Client.methodName target op = Client.methodName target op' ↔ op.spelling = op'.spelling := by
  unfold Client.methodName
  rw [operationMethodName_eq, operationMethodName_eq]
  cases target with
  | csharp =>
    obtain ⟨parted, parted'⟩ := parted rfl
    rw [← pascalCase_methodName_eq_iff ascii ascii' parted parted']
    exact String.append_left_inj "Async"
  | typescript | rust => rw [← spelling_title, ← spelling_title, ← Text.camelCase_eq_iff ascii ascii']

theorem actionName_eq_iff (ascii : Text.IsAscii op.title) (ascii' : Text.IsAscii op'.title)
    (parted : Text.Parted op.spelling) (parted' : Text.Parted op'.spelling) :
    Controller.actionName op = Controller.actionName op' ↔ op.spelling = op'.spelling := by
  unfold Controller.actionName
  rw [operationMethodName_eq, operationMethodName_eq]
  exact pascalCase_methodName_eq_iff ascii ascii' parted parted'

end Operation

namespace Document

variable {d : Document} {tag : String}

/-- No operation of a tag gets the name of another one exactly when no two are spelled alike. -/
theorem nodup_methodNames_iff (ascii : ∀ op ∈ d.operationsFor tag, Text.IsAscii op.title) :
    (∀ target, (target = .csharp → ∀ op ∈ d.operationsFor tag, Text.Parted op.spelling) →
      (((d.operationsFor tag).map (Client.methodName target)).Nodup ↔
        ((d.operationsFor tag).map (·.spelling)).Nodup)) ∧
    ((∀ op ∈ d.operationsFor tag, Text.Parted op.spelling) →
      (((d.operationsFor tag).map Controller.actionName).Nodup ↔
        ((d.operationsFor tag).map (·.spelling)).Nodup)) := by
  constructor
  · intro target parted
    exact nodup_map_congr fun op mem op' mem' =>
      Operation.methodName_eq_iff (ascii op mem) (ascii op' mem') fun csharp =>
        ⟨parted csharp op mem, parted csharp op' mem'⟩
  · intro parted
    exact nodup_map_congr fun op mem op' mem' =>
      Operation.actionName_eq_iff (ascii op mem) (ascii op' mem') (parted op mem) (parted op' mem')

/-- Operations on pets, of which one has an identifier. -/
def petOperations : List Operation :=
  [⟨none, "GET", "/pets", "Pets", none, [], none, none⟩,
    ⟨some "get-a-pet", "GET", "/pets/\x7bid\x7d", "Pets", none, [], none, none⟩]

def petDocument : Document :=
  ⟨"Pets", "1", .empty, petOperations⟩

theorem nodup_methodNames_petDocument :
    (∀ op ∈ petDocument.operationsFor "Pets", Text.IsAscii op.title) ∧
      (∀ op ∈ petDocument.operationsFor "Pets", Text.Parted op.spelling) ∧
      ((petDocument.operationsFor "Pets").map (Client.methodName .csharp)).Nodup ∧
      ((petDocument.operationsFor "Pets").map Controller.actionName).Nodup := by
  have ascii : ∀ op ∈ petDocument.operationsFor "Pets", Text.IsAscii op.title := by decide
  have parted : ∀ op ∈ petDocument.operationsFor "Pets", Text.Parted op.spelling := by decide
  have apart : ((petDocument.operationsFor "Pets").map (·.spelling)).Nodup := by decide
  obtain ⟨methods, actions⟩ := nodup_methodNames_iff ascii
  exact ⟨ascii, parted, (methods .csharp fun _ => parted).mpr apart, (actions parted).mpr apart⟩

/-- A list and its items, which only a parameter tells apart. -/
def pets : Json :=
  let read : Json := .object [("get", .object [("tags", .array [.string "pets"])])]
  .object [("openapi", .string "3.0.0"),
    ("paths", .object [("/pets", read), ("/pets/\x7bid\x7d", read)])]

theorem pets_share_methodName :
    (load pets "pets.json").toOption.map (fun d =>
      ((d.operationsFor "Pets").map (Client.methodName .typescript),
        (d.operationsFor "Pets").map Controller.actionName)) =
      some (["getPets", "getPets"], ["GetPets", "GetPets"]) := by
  decide

end Document

end Api
end Scaffold

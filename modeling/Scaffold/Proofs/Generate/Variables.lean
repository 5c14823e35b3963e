/-
The variables of client methods: `Client.variables_apart_iff`. No check keeps the names of parameters
apart, neither from each other nor from those that the templates give to variables of their own; they are
apart exactly when the names on the wire are spelled differently.
-/
import Scaffold.Generate.Client
import Scaffold.Proofs.Failing
import Scaffold.Proofs.Generate.Members

namespace Scaffold

theorem Target.parameterName_eq_iff {target : Target} (other : target ≠ .rust) {name name' : String} :
    target.parameterName name = target.parameterName name' ↔ Text.camelCase name = Text.camelCase name' := by
  cases target with
  | csharp =>
    exact escaped_inj "@" isCSharpKeyword (by decide) (Text.at_notMem_camelCase name)
      (Text.at_notMem_camelCase name')
  | typescript => rfl
  | rust => exact absurd rfl other

namespace Client

/-! ## The templates -/

/-- The lines of the template of a service. -/
def serviceLines : Target → List String
  | .csharp => Template.Source.csharpServiceLines
  | _ => Template.Source.typescriptServiceLines

/-- The line that ends a method there. -/
def methodEnd : Target → String
  | .csharp => "    \x7d"
  | _ => "  \x7d"

/-- The lines of the method, of which there is one for each operation. -/
def methodLines (target : Target) : List String :=
  ((serviceLines target).dropWhile (· != "\x7b% for op in operations %\x7d")).takeWhile (· != methodEnd target)

/-- The characters of a text in ASCII, of which each is a byte. -/
def asciiChars (s : String) : List Char :=
  s.toByteArray.data.toList.map fun byte => Char.ofNat byte.toNat

/-- The variable that a line of code declares. -/
def declared? (line : String) : Option String :=
  let code := (asciiChars line).dropWhile (· == ' ')
  (["const ", "var ", "using var "].findSome? fun front => Text.dropFront? (asciiChars front) code).map
    fun rest => String.ofList (rest.takeWhile Char.isAlpha)

/-- The local variables of a method. -/
def locals (target : Target) : List String :=
  (methodLines target).filterMap declared?

theorem locals_eq (target : Target) :
    locals target = match target with
      | .csharp => ["query", "url", "request", "response"]
      | _ => ["query", "headers"] := by
  cases target <;> decide

/-! ## The parameters of a method -/

/-- The variables that a method declares in its list of parameters. -/
def variableNames (target : Target) (op : Api.Operation) : List String :=
  (arguments target op).map (·.variableName)

/-- The variables of a method are distinct, and none of them is a local one. -/
def Apart (target : Target) (op : Api.Operation) : Prop :=
  (variableNames target op).Nodup ∧ ∀ v ∈ variableNames target op, v ∉ locals target

def bodyName (b : Api.Body) : String :=
  if b.isMultipart then "form" else "body"

/-- The names that the variables are made from. -/
def variableSources (op : Api.Operation) : List String :=
  op.parameters.map (·.name) ++ (op.body.map bodyName).toList

variable {target : Target} {op : Api.Operation}

/-- Every parameter is carried in one location. -/
theorem perm_parametersIn (op : Api.Operation) :
    ([Api.Location.path, .query, .header].flatMap op.parametersIn).Perm op.parameters := by
  simp only [Api.Operation.parametersIn, List.flatMap_cons, List.flatMap_nil, List.append_nil]
  induction op.parameters with
  | nil => exact .nil
  | cons p rest ih =>
    cases located : p.location with
    | path => simpa [List.filter_cons, located] using ih
    | query => simpa [List.filter_cons, located] using List.perm_middle.trans (ih.cons p)
    | header =>
      rw [← List.append_assoc] at ih ⊢
      simpa [List.filter_cons, located] using List.perm_middle.trans (ih.cons p)

theorem variableName_ofBody (other : target ≠ .rust) (b : Api.Body) :
    (Argument.ofBody b).variableName = target.parameterName (bodyName b) := by
  have plain : target.parameterName "form" = "form" ∧ target.parameterName "body" = "body" := by
    cases target with
    | rust => exact absurd rfl other
    | _ => decide
  unfold Argument.ofBody bodyName
  split
  · exact plain.1.symm
  · exact plain.2.symm

/-- The variables are made from the names on the wire, in some order. -/
theorem perm_variables (other : target ≠ .rust) :
    (variableNames target op).Perm ((variableSources op).map target.parameterName) := by
  have body : ((op.body.map Argument.ofBody).toList).map (·.variableName) =
      ((op.body.map bodyName).toList).map target.parameterName := by
    cases op.body with
    | none => rfl
    | some b => simp [variableName_ofBody other]
  have carried := (perm_parametersIn op).map fun p => target.parameterName p.name
  unfold variableNames arguments
  refine ((List.filter_append_perm _ _).map _).trans ?_
  rw [List.map_append, body, List.map_map, variableSources, List.map_append, List.map_map]
  exact carried.append_right _

theorem map_parameterName_locals (other : target ≠ .rust) :
    (locals target).map target.parameterName = locals target := by
  cases target with
  | rust => exact absurd rfl other
  | _ => rw [locals_eq]; decide

theorem nodup_locals (target : Target) : (locals target).Nodup := by
  rw [locals_eq]
  cases target <;> decide

theorem isAscii_locals (target : Target) : ∀ name ∈ locals target, Text.IsAscii name := by
  rw [locals_eq]
  cases target <;> decide

theorem isAscii_bodyName (b : Api.Body) : Text.IsAscii (bodyName b) := by
  unfold bodyName
  split <;> decide

theorem apart_iff (other : target ≠ .rust) :
    Apart target op ↔ ((variableSources op ++ locals target).map Text.camelCase).Nodup := by
  have together : Apart target op ↔ (variableNames target op ++ locals target).Nodup := by
    rw [List.nodup_append']
    exact ⟨fun ⟨distinct, apart⟩ => ⟨distinct, nodup_locals target, fun v mem => apart v mem⟩,
      fun ⟨distinct, _, apart⟩ => ⟨distinct, fun v mem => apart mem⟩⟩
  have named : (variableNames target op ++ locals target).Perm
      ((variableSources op ++ locals target).map target.parameterName) := by
    rw [List.map_append, map_parameterName_locals other]
    exact (perm_variables other).append_right _
  rw [together, named.nodup_iff]
  exact nodup_map_congr fun _ _ _ _ => Target.parameterName_eq_iff other

/-- The variables of a client method are apart exactly when the names that they are made from and the
local variables have different camel case forms, that is, if they are in ASCII, when they are spelled
differently. -/
theorem variables_apart_iff (supported : Artifact.client.supports target = true) (op : Api.Operation) :
    (Apart target op ↔ ((variableSources op ++ locals target).map Text.camelCase).Nodup) ∧
      ((∀ p ∈ op.parameters, Text.IsAscii p.name) →
        (Apart target op ↔ ((variableSources op ++ locals target).map Text.spelling).Nodup)) := by
  have other : target ≠ .rust := by
    rintro rfl
    cases supported
  refine ⟨apart_iff other, fun ascii => (apart_iff other).trans ?_⟩
  have all_ascii : ∀ name ∈ variableSources op ++ locals target, Text.IsAscii name := by
    simp only [variableSources, List.forall_mem_append, List.forall_mem_map, Option.mem_toList,
      Option.map_eq_some_iff, forall_exists_index, and_imp, forall_apply_eq_imp_iff₂]
    exact ⟨⟨ascii, fun b _ => isAscii_bodyName b⟩, isAscii_locals target⟩
  exact nodup_map_congr fun name mem name' mem' =>
    Text.camelCase_eq_iff (all_ascii name mem) (all_ascii name' mem')

/-- A search with a page in a header, and an identifier that is a keyword. -/
def findItems : Api.Operation where
  operationId := none
  method := "POST"
  path := "/shops/\x7bclass\x7d/items"
  tag := "Items"
  summary := none
  parameters := [⟨"class", .path, .named "string", true, none⟩,
    ⟨"max-price", .query, .named "decimal", false, none⟩, ⟨"X-Page", .header, .named "int", false, none⟩]
  body := some ⟨.named "string", Api.jsonContent, true⟩
  response := none

theorem variables_apart_findItems :
    Artifact.client.supports .csharp = true ∧
      variableNames .csharp findItems = ["@class", "body", "maxPrice", "xPage"] ∧
      (∀ p ∈ findItems.parameters, Text.IsAscii p.name) ∧ Apart .csharp findItems := by
  have ascii : ∀ p ∈ findItems.parameters, Text.IsAscii p.name := by decide
  have spelled : ((variableSources findItems ++ locals .csharp).map Text.spelling).Nodup := by
    rw [locals_eq]
    decide
  exact ⟨rfl, by decide, ascii, ((variables_apart_iff rfl findItems).2 ascii).mpr spelled⟩

/-- An item is asked for by a name that is also in a header, with a query that is called so. -/
def itemQuery : Json :=
  let parameter (name location : String) (rest : List (String × Json)) : Json :=
    .object ([("name", .string name), ("in", .string location)] ++ rest)
  let schema (type : String) : String × Json := ("schema", .object [("type", .string type)])
  .object [("openapi", .string "3.0.0"),
    ("info", .object [("title", .string "Shop"), ("version", .string "1")]),
    ("paths", .object [("/items/\x7bid\x7d", .object [("get", .object [
      ("tags", .array [.string "items"]),
      ("parameters", .array [
        parameter "id" "path" [("required", .bool true), schema "integer"],
        parameter "id" "header" [schema "string"],
        parameter "query" "query" [schema "string"]])])])])]

/-- In both languages one parameter is declared twice, and another is declared once more in the method. -/
theorem itemQuery_variables_clash :
    ∃ d, Api.load itemQuery "shop.json" = .ok d ∧ ∃ op ∈ d.operations,
      ∀ target, Artifact.client.supports target = true →
        variableNames target op = ["id", "query", "id"] ∧ "query" ∈ locals target ∧ ¬Apart target op := by
  have found : (Api.load itemQuery "shop.json").toOption.map (·.operations.map fun op =>
      (variableNames .csharp op, variableNames .typescript op)) =
        some [(["id", "query", "id"], ["id", "query", "id"])] := by
    decide
  obtain ⟨d, loaded, names⟩ := Option.map_eq_some_iff.mp found
  obtain ⟨op, only, names⟩ := List.map_eq_singleton_iff.mp names
  obtain ⟨csharp, typescript⟩ := Prod.mk.inj names
  refine ⟨d, toOption_eq_some_iff.mp loaded, op, by simp [only], fun target supported => ?_⟩
  have declared : variableNames target op = ["id", "query", "id"] := by
    cases target with
    | csharp => exact csharp
    | typescript => exact typescript
    | rust => cases supported
  refine ⟨declared, ?_, fun ⟨distinct, _⟩ => ?_⟩
  · rw [locals_eq]
    cases target <;> simp
  · rw [declared] at distinct
    exact absurd distinct (by decide)

end Client
end Scaffold

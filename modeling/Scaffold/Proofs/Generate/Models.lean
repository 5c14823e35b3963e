/-
Models of a client. They print the types that its services print: a service writes a type as the resolver
gave it, and a model writes it through a property, which holds text and marks. Both are the same text if the
names in the type are plain and no other spellings of primitives: `modelField_typeText`. In the literals of
models quotes are escaped and backslashes are not, so a text is read back exactly if it has no backslash and
stays in one line: `Client.literals_read_back_iff`.
-/
import Scaffold.Generate.Client
import Scaffold.Proofs.Api.Shapes
import Scaffold.Proofs.Target.Literals
import Scaffold.Proofs.TypeExpr.Names

namespace Scaffold

/-! ## Types -/

namespace Client

open TypeExpr

variable {t : TypeExpr}

/-- A model property says of its type what the type with null says, where it may be missing. -/
theorem renderText_modelProperty (target : Target) (p : TypedProperty) (nullable : Bool)
    (marked : (modelProperty p).isNullable = nullable) :
    target.renderText (modelProperty p).typeText (modelProperty p).marks =
      target.renderText (p.type.withNullable nullable).canonicalName
        ⟨(p.type.withNullable nullable).innermost.isEnum, (p.type.withNullable nullable).isList,
          (p.type.withNullable nullable).isNullable⟩ := by
  rw [isEnum_innermost_withNullable, isNullable_withNullable, ← marked]
  rfl

/-- The type of a field in a model is printed as services print the type of the property. -/
theorem modelField_typeText {document : Json} {path : String} {d : Api.Document}
    (loaded : Api.load document path = .ok d) {definition : TypeDefinition}
    (defined : definition ∈ d.types.values) {properties : List TypedProperty}
    (object : definition.body = .object properties) {p : TypedProperty} (mem : p ∈ properties)
    (names : ∀ name ∈ p.type.references, PlainName name ∧ ¬IsAlias name) (target : Target) :
    (modelField target p).typeText =
      target.render (p.type.withNullable (p.type.isNullable || !p.isRequired)) := by
  have resolved : p.type.Resolved := by
    refine Api.load_resolved loaded definition defined p.type ?_
    rw [TypeDefinition.propertyTypes, object]
    exact List.mem_map_of_mem mem
  show target.renderText (modelProperty p).typeText (modelProperty p).marks = _
  rw [renderText_modelProperty target p _ rfl]
  refine renderText_of_resolved (resolved.withNullable _) (fun name used => ?_) target
  rw [references_withNullable] at used
  exact names name used

/-- Items with tags from a fixed set, and with others under keys. -/
def catalog : Json :=
  .object [("openapi", .string "3.0.0"), ("components", .object [("schemas", .object [
    ("Tag", .object [("type", .string "string"), ("enum", .array [.string "new", .string "used"])]),
    ("Item", .object [("type", .string "object"), ("required", .array [.string "tags"]),
      ("properties", .object [
        ("tags", .object [("type", .string "array"),
          ("items", .object [("$ref", .string "#/components/schemas/Tag")])]),
        ("others", .object [("type", .string "object"), ("additionalProperties",
          .object [("$ref", .string "#/components/schemas/Item")])])])])])])]

/-- The two properties of an item, as they are resolved. -/
def itemProperties : List TypedProperty :=
  [⟨"tags", list (enumeration "Tag"), true, none, none, none⟩,
    ⟨"others", dictionary (.primitive "string") (reference "Item"), false, none, none, none⟩]

theorem modelField_typeText_item :
    ∃ d definition, Api.load catalog "catalog.json" = .ok d ∧ definition ∈ d.types.values ∧
      definition.body = .object itemProperties ∧
      itemProperties.map (fun p => (modelField .typescript p).typeText) =
        ["Tag[]", "Record<string, Item> | null"] := by
  have found : (match Api.load catalog "catalog.json" with
      | .ok d => decide (∃ definition ∈ d.types.values, definition.body = .object itemProperties)
      | .error _ => false) = true := by
    decide +kernel
  cases loaded : Api.load catalog "catalog.json" with
  | error failure =>
    rw [loaded] at found
    cases found
  | ok d =>
    rw [loaded] at found
    obtain ⟨definition, defined, object⟩ := of_decide_eq_true found
    refine ⟨d, definition, rfl, defined, object, ?_⟩
    have names : ∀ p ∈ itemProperties, ∀ name ∈ p.type.references, PlainName name ∧ ¬IsAlias name := by
      decide +kernel
    rw [List.map_congr_left fun p mem =>
      modelField_typeText loaded defined object mem (names p mem) .typescript]
    decide +kernel

/-- Pets whose names are of a type that a document calls `String`. -/
def shadowedNames : Json :=
  .object [("openapi", .string "3.0.0"), ("components", .object [("schemas", .object [
    ("Pet", .object [("type", .string "object"), ("required", .array [.string "name"]),
      ("properties", .object [
        ("name", .object [("$ref", .string "#/components/schemas/String")])])]),
    ("String", .object [("type", .string "object"), ("properties", .object [
      ("text", .object [("type", .string "string")])])])])])]

/-- The property of a pet, as it is resolved. -/
def petName : TypedProperty :=
  ⟨"name", .reference "String", true, none, none, none⟩

/-- Services print the type of the document, and the model prints a primitive. -/
theorem modelField_shadowed :
    (Api.load shadowedNames "pets.json").toOption.bind (fun d => d.types.get? "Pet") =
        some ⟨"Pet", none, .object [petName]⟩ ∧
      (modelField .typescript petName).typeText = "string" ∧
      Target.typescript.render
        (petName.type.withNullable (petName.type.isNullable || !petName.isRequired)) = "String" := by
  decide +kernel

end Client

/-! ## Literals -/

namespace Client

open Template

/-- The line with which the C# template gives the value of an enum member. -/
def attributeLine : String :=
  "    [EnumMember(Value = \"\x7b\x7b member.raw \x7d\x7d\")]"

theorem attributeLine_mem : attributeLine ∈ Source.csharpModelLines := by decide

/-- The literal in that line: a raw text in the quotes of the template. -/
def attributeLiteral (value : String) : String :=
  "\"" ++ escaped '"' value ++ "\""

/-- The line is two texts around a member of an item. -/
def around? : List Template.Node → Option (String × String × String × String)
  | [.text front, .emit (.member (.name item) name), .text back] => some (front, item, name, back)
  | _ => none

theorem eq_of_around? {nodes : List Template.Node} {front item name back : String}
    (h : around? nodes = some (front, item, name, back)) :
    nodes = [.text front, .emit (.member (.name item) name), .text back] := by
  unfold around? at h
  split at h
  · simp_all
  · cases h

theorem render_attributeLine (isInteger : Bool) (m : EnumMember) :
    (Template.parse? attributeLine).bind (Node.renderAll [("member", memberData isInteger m)]) =
      some ("    [EnumMember(Value = " ++ attributeLiteral m.value ++ ")]") := by
  have shape : (Template.parse? attributeLine).bind around? =
      some ("    [EnumMember(Value = \"", "member", "raw", "\")]") := by
    decide +kernel
  obtain ⟨nodes, parsed, found⟩ := Option.bind_eq_some_iff.mp shape
  have raw : (Expr.member (.name "member") "raw").eval [("member", memberData isInteger m)] =
      some (some (.string (escaped '"' m.value))) := rfl
  rw [parsed, Option.bind_some, eq_of_around? found]
  simp only [Node.renderAll, Node.render, raw, Option.map_some, Option.bind_some, Value.text,
    attributeLiteral]
  apply congrArg some
  apply String.toList_injective
  simp

theorem literal_eq (v : String) : literal v = JavaScript.singleQuoted.written v := by
  apply String.toList_injective
  simp [literal, escaped, Quotation.written, Quotation.inside, JavaScript.singleQuoted]

theorem attributeLiteral_eq (v : String) : attributeLiteral v = CSharp.doubleQuoted.written v := by
  apply String.toList_injective
  simp [attributeLiteral, escaped, Quotation.written, Quotation.inside, CSharp.doubleQuoted]

theorem modelKey_of_not_identifier {v : String} (other : isIdentifier v = false) :
    modelKey .typescript v = literal v := by
  simp [modelKey, other]

/-- The literals of a text, as the value of an enum member in both languages and as a key in TypeScript,
are read back as that text and as nothing else exactly if it has no backslash and stays in one line. -/
theorem literals_read_back_iff (v : String) :
    ((∀ w, JavaScript.singleQuoted.Denotes (literal v) w ↔ w = v) ↔
      ∀ c ∈ v.toList, c ∉ ['\\', '\n', '\r']) ∧
    (isIdentifier v = false →
      ((∀ w, JavaScript.singleQuoted.Denotes (modelKey .typescript v) w ↔ w = v) ↔
        ∀ c ∈ v.toList, c ∉ ['\\', '\n', '\r'])) ∧
    ((∀ w, CSharp.doubleQuoted.Denotes (attributeLiteral v) w ↔ w = v) ↔
      ∀ c ∈ v.toList, c ∉ ['\\', '\n', '\r', Char.ofNat 0x85, lineSeparator, paragraphSeparator]) := by
  have javaScript : (∀ w, JavaScript.singleQuoted.Denotes (literal v) w ↔ w = v) ↔
      ∀ c ∈ v.toList, c ∉ ['\\', '\n', '\r'] := by
    rw [literal_eq, JavaScript.lawful_singleQuoted.denotes_written_iff]
    refine forall₂_congr fun c _ => ?_
    simp [Quotation.isUnclean, JavaScript.singleQuoted]
  refine ⟨javaScript, fun other => ?_, ?_⟩
  · rw [modelKey_of_not_identifier other]
    exact javaScript
  · rw [attributeLiteral_eq, CSharp.lawful_doubleQuoted.denotes_written_iff]
    refine forall₂_congr fun c _ => ?_
    simp [Quotation.isUnclean, CSharp.doubleQuoted, and_assoc]

/-- Quotes of both kinds are read back. -/
theorem literals_read_back_quotes :
    let v := "5' or 6\""
    isIdentifier v = false ∧ literal v = "'5\\' or 6\"'" ∧ attributeLiteral v = "\"5' or 6\\\"\"" ∧
      (∀ w, JavaScript.singleQuoted.Denotes (literal v) w ↔ w = v) ∧
      (∀ w, JavaScript.singleQuoted.Denotes (modelKey .typescript v) w ↔ w = v) ∧
      ∀ w, CSharp.doubleQuoted.Denotes (attributeLiteral v) w ↔ w = v := by
  intro v
  have other : isIdentifier v = false := by decide
  obtain ⟨value, key, raw⟩ := literals_read_back_iff v
  have one_line : ∀ c ∈ v.toList, c ∉ ['\\', '\n', '\r'] := by simp [v]
  exact ⟨other, by decide, by decide, value.mpr one_line, (key other).mpr one_line,
    raw.mpr (by simp [v, lineSeparator, paragraphSeparator])⟩

/-- A backslash becomes part of an escape: `a\b` is read as an `a` with a control character. -/
theorem backslash_read_as_escape :
    let v := "a\\b"
    isIdentifier v = false ∧ ¬JavaScript.singleQuoted.Denotes (literal v) v ∧
      ¬JavaScript.singleQuoted.Denotes (modelKey .typescript v) v ∧
      ¬CSharp.doubleQuoted.Denotes (attributeLiteral v) v ∧
      JavaScript.singleQuoted.Denotes (literal v) "a\x08" ∧
      CSharp.doubleQuoted.Denotes (attributeLiteral v) "a\x08" := by
  intro v
  have other : isIdentifier v = false := by decide
  have javaScript : JavaScript.singleQuoted.value? (literal v) = some [0x61, 8] := by
    have text : literal v = "'a\\b'" := by decide
    have backspace : JavaScript.escape? ['b', '\x27'] = some ([8], 1) := by decide
    rw [text]
    simp [Quotation.value?, Quotation.content?, JavaScript.singleQuoted, backspace, charUnits, codeUnits]
  have csharp : CSharp.doubleQuoted.value? (attributeLiteral v) = some [0x61, 8] := by
    have text : attributeLiteral v = "\"a\\b\"" := by decide
    have backspace : CSharp.escape? ['b', '"'] = some ([8], 1) := by decide
    rw [text]
    simp [Quotation.value?, Quotation.content?, CSharp.doubleQuoted, backspace, lineSeparator,
      paragraphSeparator, charUnits, codeUnits]
  have different : textUnits v ≠ [0x61, 8] := by decide
  have same : textUnits "a\x08" = [0x61, 8] := by decide
  rw [modelKey_of_not_identifier other]
  simp only [Quotation.Denotes, javaScript, csharp, same, Option.some.injEq, different.symm]
  exact ⟨other, not_false, not_false, not_false, trivial, trivial⟩

end Client
end Scaffold

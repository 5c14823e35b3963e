/-
The order of named schemas. Names are numbered in the order of the schemas, and a cycle is closed
where it is entered, so the order can matter (`order_matters`). What does not depend on it are the
types and definitions of the named schemas, seen through the places that own their names, and if all
cycles close on objects, whether the schemas can be resolved at all: `allNamed_reordered`.
-/
import Scaffold.Proofs.Api.Alike
import Scaffold.Proofs.Api.Listing
import Scaffold.Proofs.Api.Reach
import Scaffold.Proofs.Api.Resolution
import Scaffold.Proofs.Json.Reordering

namespace Scaffold
namespace Api

open Resolver Resolve Json.Pointer

variable {document document' : Json} {marks names : Bool}

/-! ## Reordered documents -/

/-- Two documents that differ at most in the order of their named schemas. -/
def Reordered (document document' : Json) : Prop :=
  Json.Reordered (schemasPath document) document document'

theorem schemasPath_subset (document : Json) : schemasPath document ⊆ sectionKeys := by
  unfold schemasPath
  split <;> decide

theorem alike_of_reordered {rest : List String} {v v' : Json}
    (suffix : rest <:+ schemasPath document) (h : Json.Reordered rest v v') : Alike v v' :=
  fun _ other => h.get?_eq fun mem => other (schemasPath_subset document (suffix.subset mem))

theorem namedSchemas_eq {members : List (String × Json)}
    (found : (schemasPath document).foldlM step? document = some (.object members)) :
    namedSchemas document = members := by
  rw [namedSchemas, lookup?_eq, segmentsOf_schemasPrefix, Option.bind_some, found]
  rfl

namespace Reordered

theorem has_eq (h : Reordered document document') (key : String) :
    Schema.has document' key = Schema.has document key :=
  Json.Reordered.isSome_get? h key

theorem path_eq (h : Reordered document document') : schemasPath document' = schemasPath document := by
  unfold schemasPath
  rw [h.has_eq, h.has_eq]

theorem symm (h : Reordered document document') : Reordered document' document := by
  unfold Reordered
  rw [h.path_eq]
  exact Json.Reordered.symm h

theorem forth (h : Reordered document document') : Matches document document' := by
  intro reference v here
  rw [lookup?_eq] at here ⊢
  obtain ⟨segments, found, here⟩ := Option.bind_eq_some_iff.mp here
  obtain ⟨v', here', related⟩ := Json.Reordered.lookup h here
  refine ⟨v', by rw [found]; exact here', ?_⟩
  rcases related with rfl | ⟨rest, suffix, reordered⟩
  · exact .refl v'
  · exact alike_of_reordered suffix reordered

theorem equivalent (h : Reordered document document') : Equivalent document document' where
  forth := h.forth
  back := h.symm.forth
  root := by
    unfold schemasPrefix
    rw [h.has_eq, h.has_eq]
  named m := by
    obtain ⟨members, members', found, found', _, perm⟩ := Json.Reordered.lookup_path h
    rw [← h.path_eq] at found'
    rw [namedSchemas_eq found', namedSchemas_eq found]
    exact perm.mem_iff

theorem lookup?_named (h : Reordered document document') {name : String} {schema : Json}
    (mem : (name, schema) ∈ namedSchemas document) :
    lookup? document (child (schemasPrefix document) name) = some schema := by
  obtain ⟨members, _, found, _, distinct, _⟩ := Json.Reordered.lookup_path h
  rw [namedSchemas_eq found] at mem
  have object : lookup? document (schemasPrefix document) = some (.object members) := by
    rw [lookup?_eq, segmentsOf_schemasPrefix]
    exact found
  rw [lookup?_named_of_object object, Json.lookup_of_mem distinct mem]

theorem distinctKeys (h : Reordered document document') (distinct : DistinctKeys document) :
    DistinctKeys document' := by
  intro v' inside
  rcases Json.Reordered.mem_values h inside with inside | ⟨rest, v, _, inside, reordered⟩
  · exact distinct v' inside
  · exact reordered.keys_perm.nodup_iff.mpr (distinct v inside)

end Reordered

/-! ## The same definitions -/

/-- Two definitions say the same, as their names are read. -/
structure SameDefinition (marks names : Bool) (r r' : Resolver) (d d' : TypeDefinition) : Prop where
  name : reading names r' d'.name = reading names r d.name
  comment : d'.comment = d.comment
  body : d'.body.view (reading names r') marks = d.body.view (reading names r) marks

/-- Two resolvers have the same type for a reference, and if its schema is an object or an enum, the
same definition under the name of that type. Names are the same if they matter, and else they belong to
the same places. -/
def SameMeaning (marks names : Bool) (r r' : Resolver) (reference : String) (schema : Json) : Prop :=
  ∃ type type', r.resolved.get? reference = some type ∧ r'.resolved.get? reference = some type' ∧
    type'.view (reading names r') marks = type.view (reading names r) marks ∧
    (Schema.kind schema ≠ .other → ∃ d d', r.table.get? type.name = some d ∧
      r'.table.get? type'.name = some d' ∧ SameDefinition marks names r r' d d')

/-- Two resolvers have one type for a reference, and if its schema is an object or an enum, one
definition under the name of that type. -/
def SameEntry (r r' : Resolver) (reference : String) (schema : Json) : Prop :=
  ∃ type, r.resolved.get? reference = some type ∧ r'.resolved.get? reference = some type ∧
    (Schema.kind schema ≠ .other → ∃ d, r.table.get? type.name = some d ∧
      r'.table.get? type.name = some d)

theorem SameDefinition.eq {r r' : Resolver} {d d' : TypeDefinition}
    (h : SameDefinition true true r r' d d') : d' = d := by
  obtain ⟨name, comment, body⟩ := d
  obtain ⟨name', comment', body'⟩ := d'
  obtain ⟨rfl, rfl, same⟩ := h
  rw [reading, TypeBody.view_id, reading, TypeBody.view_id] at same
  exact congrArg (TypeDefinition.mk name' comment') same

/-- If marks and names matter, nothing is left to differ. -/
theorem SameMeaning.sameEntry {r r' : Resolver} {reference : String} {schema : Json}
    (h : SameMeaning true true r r' reference schema) : SameEntry r r' reference schema := by
  obtain ⟨type, type', found, found', same, definitions⟩ := h
  rw [reading, TypeExpr.view_id, reading, TypeExpr.view_id] at same
  subst same
  refine ⟨type', found, found', fun kind => ?_⟩
  obtain ⟨d, d', entry, entry', same⟩ := definitions kind
  exact ⟨d, entry, same.eq ▸ entry'⟩

/-- Two equivalent documents state the same of a schema, as long as enums are made of enums. -/
theorem Stated.same (same : Equivalent document document') {r r' : Resolver} {place : String}
    {schema schema' : Json} (alike : Alike schema schema') (kind : Schema.kind schema ≠ .other)
    {d d' : TypeDefinition} (h : Stated document marks names place schema r d)
    (h' : Stated document' marks names place schema' r' d')
    (enum : Schema.kind schema = .enum → d.isEnum = true)
    (enum' : Schema.kind schema' = .enum → d'.isEnum = true)
    (name : reading names r' d'.name = reading names r d.name) :
    SameDefinition marks names r r' d d' := by
  have enum_of_values {v : Json} {values : List Json} (values_eq : v.itemsAt? "enum" = some values)
      (kind : Schema.kind v ≠ .other) : Schema.kind v = .enum := by
    cases kind_eq : Schema.kind v with
    | enum => rfl
    | other => exact absurd kind_eq kind
    | object =>
      have := Schema.isEnum_of_kind_object kind_eq
      rw [Schema.isEnum, values_eq] at this
      cases this
  have kind' : Schema.kind schema' ≠ .other := alike.kind_eq ▸ kind
  cases h with
  | enum values_eq =>
    cases h' with
    | enum values_eq' =>
      rw [alike.values_eq, values_eq] at values_eq'
      rw [← Option.some.inj values_eq', alike.enumDefinition_eq] at name ⊢
      exact ⟨name, rfl, rfl⟩
    | object =>
      cases enum' (alike.kind_eq.trans (enum_of_values values_eq kind))
  | @object own _ _ _ collects shown =>
    cases h' with
    | enum values_eq' =>
      cases enum (alike.kind_eq.symm.trans (enum_of_values values_eq' kind'))
    | @object own' _ _ _ collects' shown' =>
      have same_own : names = true → own' = own := eq_of_reading name
      have collects := collects.of_matches same.forth (.whole alike place)
      have same_meaning := (collects.recontext same_own).unique collects'
      refine ⟨name, alike.description?_eq, ?_⟩
      simp only [objectDefinition, TypeBody.view, shown.same, shown'.same, same_meaning]

/-- What two resolvers know of a named schema when all named schemas were resolved, each in the
order of its document. -/
theorem Finished.sameMeaning (same : Equivalent document document') {r r' : Resolver} {key : String}
    {schema : Json} {type type' : TypeExpr}
    (here : lookup? document (child (schemasPrefix document) key) = some schema)
    (h : Finished document marks names r) (h' : Finished document' marks names r')
    (found : r.resolved.get? (child (schemasPrefix document) key) = some type)
    (found' : r'.resolved.get? (child (schemasPrefix document) key) = some type') :
    SameMeaning marks names r r' (child (schemasPrefix document) key) schema := by
  obtain ⟨meaning, denotes, shown⟩ := h.understood.resolved _ type found
  obtain ⟨meaning', denotes', shown'⟩ := h'.understood.resolved _ type' found'
  have same_meaning := (denotes.of_matches same.forth (.reference _)).unique denotes'
  have same_type : type'.view (reading names r') marks = type.view (reading names r) marks := by
    rw [shown.same, shown'.same, same_meaning]
  refine ⟨type, type', found, found', same_type, fun kind => ?_⟩
  obtain ⟨schema', here', alike⟩ := same.forth _ schema here
  obtain ⟨d, entry, name, owner, stated, enum⟩ := h.entry found here kind
  rw [← same.root] at here' found'
  obtain ⟨d', entry', name', owner', stated', enum'⟩ := h'.entry found' here' (alike.kind_eq ▸ kind)
  rw [same.root] at stated' owner'
  refine ⟨d, d', entry, entry', stated.same same alike kind stated' enum enum' ?_⟩
  rw [reading_eq _ owner, reading_eq _ owner']
  refine label_congr (fun matter => ?_) _
  subst matter
  have same_name := congrArg TypeExpr.name same_type
  rw [reading, TypeExpr.name_view_id, reading, TypeExpr.name_view_id] at same_name
  rw [name, name', same_name]

/-- All named schemas of a document were resolved. -/
def ResolvesTo (document : Json) (r : Resolver) : Prop :=
  outcome (allNamed document) .start = (.ok ⟨⟩, r)

theorem Tells.of_equivalent (same : Equivalent document document') (h : Tells document marks names) :
    Tells document' marks names where
  proper := h.proper.of_equivalent same
  unmarked matter := (h.unmarked matter).of_equivalent same
  apart matter := (h.apart matter).of_equivalent same

/-- The order of named schemas does not matter for whether they can be resolved, if all cycles of
references close on objects. Whenever they can be resolved in two orders, they have the same types
and definitions, when names are read as the places that own them, as long as references on cycles are
texts. Marks for null are the same too, unless a marked alias is part of a cycle, and so are the names
themselves, unless a name is wanted for two places; with both, the tables have the very same
definitions. -/
theorem allNamed_reordered (reordered : Reordered document document') :
    (CyclesClose document → ((∃ r, ResolvesTo document r) ↔ ∃ r', ResolvesTo document' r')) ∧
    (CyclesProper document → DistinctKeys document → ∀ r r', ResolvesTo document r →
      ResolvesTo document' r' →
      (∀ marks names, (marks = true → CyclesUnmarked document) →
        (names = true → NamesApart document) →
        ∀ name schema, (name, schema) ∈ namedSchemas document →
          SameMeaning marks names r r' (child (schemasPrefix document) name) schema) ∧
      (CyclesUnmarked document → NamesApart document →
        ∀ name schema, (name, schema) ∈ namedSchemas document →
          SameEntry r r' (child (schemasPrefix document) name) schema)) := by
  have same := reordered.equivalent
  refine ⟨fun close => ?_, fun proper distinct r r' h h' => ?_⟩
  · refine (allNamed_ok_iff close).trans (.trans ?_ (allNamed_ok_iff (close.of_equivalent same)).symm)
    constructor
    · exact fun ⟨given, all, names⟩ => ⟨given, all.of_equivalent same, names.of_equivalent same⟩
    · exact fun ⟨given, all, names⟩ =>
        ⟨given, all.of_equivalent same.symm, names.of_equivalent same.symm⟩
  · have meaning (marks names : Bool) (tells : Tells document marks names) {name : String}
        {schema : Json} (mem : (name, schema) ∈ namedSchemas document) :
        SameMeaning marks names r r' (child (schemasPrefix document) name) schema := by
      obtain ⟨finished, types⟩ := finished_of_allNamed tells distinct h
      obtain ⟨finished', types'⟩ := finished_of_allNamed (tells.of_equivalent same)
        (reordered.distinctKeys distinct) h'
      obtain ⟨type, found⟩ := types name schema mem
      obtain ⟨type', found'⟩ := types' name schema ((same.named _).mpr mem)
      rw [same.root] at found'
      exact finished.sameMeaning same (reordered.lookup?_named mem) finished' found found'
    exact ⟨fun marks names unmarked apart _ _ => meaning marks names ⟨proper, unmarked, apart⟩,
      fun unmarked apart _ _ mem =>
        (meaning true true ⟨proper, fun _ => unmarked, fun _ => apart⟩ mem).sameEntry⟩

/-! ## Two orders of a tree -/

theorem reordered_listing {schemas schemas' : List (String × Json)}
    (distinct : (schemas.map (·.1)).Nodup) (perm : schemas'.Perm schemas) :
    Reordered (listing schemas) (listing schemas') :=
  @Json.Reordered.inner "components" ["schemas"] [("openapi", .string "3.0.0")] [] _ _ rfl
    (@Json.Reordered.inner "schemas" [] [] [] _ _ rfl (.here distinct perm))

def resolves (document : Json) : Bool :=
  match (outcome (allNamed document) .start).1 with
  | .ok _ => true
  | .error _ => false

/-- What a resolver knows when it has gone through the named schemas. -/
def resolved (document : Json) : Resolver :=
  (outcome (allNamed document) .start).2

theorem resolvesTo_resolved (h : resolves document = true) :
    ResolvesTo document (resolved document) := by
  unfold resolves at h
  unfold ResolvesTo resolved
  generalize outcome (allNamed document) .start = o at h ⊢
  obtain ⟨failure | ⟨⟩, r⟩ := o
  · cases h
  · rfl

theorem resolves_of_resolvesTo {r : Resolver} (h : ResolvesTo document r) :
    resolves document = true := by
  unfold resolves
  rw [h]

/-- Two documents are gone through, and what is found out about a name in each of them. Each is decided in
one, because the run that it takes is the same. -/
theorem exists_resolvesTo {document document' : Json} {name : String} {types types' : Option (List TypeExpr)}
    (h : resolves document = true ∧ ((resolved document).table.get? name).map (·.propertyTypes) = types)
    (h' : resolves document' = true ∧
      ((resolved document').table.get? name).map (·.propertyTypes) = types') :
    ∃ r r', ResolvesTo document r ∧ ResolvesTo document' r' ∧
      (r.table.get? name).map (·.propertyTypes) = types ∧
      (r'.table.get? name).map (·.propertyTypes) = types' :=
  ⟨_, _, resolvesTo_resolved h.1, resolvesTo_resolved h'.1, h.2, h'.2⟩

/-- A tree, a link to it, and what is a tree with a name. -/
def treeSchemas : List (String × Json) :=
  [("Tree", record [("children", listOf (schemaRef "Tree")), ("link", schemaRef "Link")]),
    ("Link", schemaRef "Tree"),
    ("Named", .object [("allOf", .array [schemaRef "Tree",
      record [("name", .object [("type", .string "string")])]])])]

theorem reordered_treeSchemas : Reordered (listing treeSchemas) (listing treeSchemas.reverse) :=
  reordered_listing (by decide) (List.reverse_perm _)

def treeReferences : List String :=
  ["#/components/schemas/Tree", "#/components/schemas/Link", "#/components/schemas/Named"]

theorem asked_treeSchemas {reference : String} (asked : AskedByNames (listing treeSchemas) reference) :
    reference ∈ treeReferences := by
  obtain ⟨name, schema, mem, leads⟩ := asked
  have closed : ClosedUnderRefs (listing treeSchemas) treeReferences := by decide +kernel
  have named : ∀ m ∈ treeSchemas, child (schemasPrefix (listing treeSchemas)) m.1 ∈ treeReferences := by
    decide +kernel
  exact (reaches_of_leads leads).mem_of_closed closed (named (name, schema) mem)

theorem cyclesClose_treeSchemas : CyclesClose (listing treeSchemas) := by
  rintro reference ⟨asked, -⟩
  have tree : LeadsToObject (listing treeSchemas) "#/components/schemas/Tree" :=
    ⟨_, rfl, rfl, rfl⟩
  have listed := asked_treeSchemas asked
  simp only [treeReferences, List.mem_cons, List.not_mem_nil, or_false] at listed
  rcases listed with rfl | rfl | rfl
  · exact ⟨_, .object tree⟩
  · exact ⟨_, .next rfl rfl (fun _ => rfl) (.object tree)⟩
  · exact ⟨_, .object ⟨_, rfl, rfl, rfl⟩⟩

theorem cyclesUnmarked_treeSchemas : CyclesUnmarked (listing treeSchemas) := by
  rintro reference target - ⟨asked, -⟩ here -
  have unmarked : ∀ reference ∈ treeReferences,
      ∀ target ∈ lookup? (listing treeSchemas) reference, Schema.isNullable target = false := by
    decide +kernel
  exact unmarked reference (asked_treeSchemas asked) target here

theorem namesApart_treeSchemas : NamesApart (listing treeSchemas) := by
  refine namesApart_of_flat (fun reference target asked here kind => ?_) (by decide +kernel) ?_
  · have flat : ∀ reference ∈ treeReferences, ∀ target ∈ lookup? (listing treeSchemas) reference,
        Schema.kind target = .other → Flat target := by
      decide +kernel
    exact flat reference (asked_treeSchemas asked) target here kind
  · intro reference reference' asked asked' same
    have apart : ∀ reference ∈ treeReferences, ∀ reference' ∈ treeReferences,
        baseName (lastSegment reference') = baseName (lastSegment reference) →
        reference' = reference := by
      decide +kernel
    exact apart reference (asked_treeSchemas asked) reference' (asked_treeSchemas asked') same

theorem allNamed_reordered_treeSchemas :
    Reordered (listing treeSchemas) (listing treeSchemas.reverse) ∧
    CyclesClose (listing treeSchemas) ∧ CyclesProper (listing treeSchemas) ∧
    DistinctKeys (listing treeSchemas) ∧ CyclesUnmarked (listing treeSchemas) ∧
    NamesApart (listing treeSchemas) ∧
    ∃ r r', ResolvesTo (listing treeSchemas) r ∧ ResolvesTo (listing treeSchemas.reverse) r' ∧
      ∀ name schema, (name, schema) ∈ namedSchemas (listing treeSchemas) →
        SameMeaning true true r r' (child (schemasPrefix (listing treeSchemas)) name) schema ∧
        SameEntry r r' (child (schemasPrefix (listing treeSchemas)) name) schema := by
  have proper : CyclesProper (listing treeSchemas) := TextRefs.proper (by decide +kernel)
  have distinct : DistinctKeys (listing treeSchemas) := by decide +kernel
  have resolves : ResolvesTo (listing treeSchemas) _ := resolvesTo_resolved (by decide +kernel)
  obtain ⟨alike, same⟩ := allNamed_reordered reordered_treeSchemas
  obtain ⟨r', resolves'⟩ := (alike cyclesClose_treeSchemas).mp ⟨_, resolves⟩
  obtain ⟨meaning, entries⟩ := same proper distinct _ r' resolves resolves'
  exact ⟨reordered_treeSchemas, cyclesClose_treeSchemas, proper, distinct,
    cyclesUnmarked_treeSchemas, namesApart_treeSchemas, _, r', resolves, resolves',
    fun name schema mem => ⟨meaning true true (fun _ => cyclesUnmarked_treeSchemas)
      (fun _ => namesApart_treeSchemas) name schema mem,
      entries cyclesUnmarked_treeSchemas namesApart_treeSchemas name schema mem⟩⟩

/-! ## What depends on the order -/

/-- Named schemas whose names stand for different type names. -/
def DistinctTypeNames (document : Json) : Prop :=
  ((namedSchemas document).map fun m => Text.pascalCase m.1).Nodup

instance (document : Json) : Decidable (DistinctTypeNames document) :=
  inferInstanceAs (Decidable (List.Nodup _))

/-- A list of objects that refer to the list. -/
def listCycle : List (String × Json) :=
  [("A", listOf (schemaRef "B")), ("B", record [("a", schemaRef "A")])]

/-- An inline object that wants the name of a named one. -/
def sameNames : List (String × Json) :=
  [("Pet", record [("tag", record [("color", .object [("type", .string "string")])])]),
    ("PetTag", record [("text", .object [("type", .string "string")])])]

/-- A link that may be null, and an object that leads there and back. -/
def nullableLink : List (String × Json) :=
  [("A", .object [("$ref", .string "#/components/schemas/B"), ("nullable", .bool true)]),
    ("B", record [("a", schemaRef "A")])]

/-- A reference that is no text, beside a part, and an object that leads there and back. -/
def oddRefs : List (String × Json) :=
  [("W", .object [("$ref", Json.ofNat 5), ("properties", .object []),
      ("allOf", .array [schemaRef "O"])]),
    ("O", record [("w", schemaRef "W")])]

/-- A cycle can be closed where it is entered at its object, and not where it is entered at its
list. Where it is closed, marks for null are lost. Names are numbered in the order in which they are
wanted. And what has a reference that is no text ends a cycle under its own name, though it stands
for another type. -/
theorem order_matters :
    (Reordered (listing listCycle) (listing listCycle.reverse) ∧
      DistinctTypeNames (listing listCycle) ∧ (¬∃ r, ResolvesTo (listing listCycle) r) ∧
      ∃ r, ResolvesTo (listing listCycle.reverse) r) ∧
    (Reordered (listing nullableLink) (listing nullableLink.reverse) ∧
      DistinctTypeNames (listing nullableLink) ∧
      ∃ r r', ResolvesTo (listing nullableLink) r ∧ ResolvesTo (listing nullableLink.reverse) r' ∧
        (r.table.get? "B").map (·.propertyTypes) = some [.reference "B"] ∧
        (r'.table.get? "B").map (·.propertyTypes) = some [(TypeExpr.reference "B").orNull]) ∧
    (Reordered (listing sameNames) (listing sameNames.reverse) ∧
      DistinctTypeNames (listing sameNames) ∧
      ∃ r r', ResolvesTo (listing sameNames) r ∧ ResolvesTo (listing sameNames.reverse) r' ∧
        (r.table.get? "Pet").map (·.propertyTypes) = some [.reference "PetTag"] ∧
        (r'.table.get? "Pet").map (·.propertyTypes) = some [.reference "PetTag2"]) ∧
    (Reordered (listing oddRefs) (listing oddRefs.reverse) ∧
      DistinctTypeNames (listing oddRefs) ∧
      ∃ r r', ResolvesTo (listing oddRefs) r ∧ ResolvesTo (listing oddRefs.reverse) r' ∧
        (r.table.get? "O").map (·.propertyTypes) = some [.reference "W"] ∧
        (r'.table.get? "O").map (·.propertyTypes) = some [.reference "O"]) := by
  refine ⟨⟨reordered_listing (by decide) (List.reverse_perm _), by decide +kernel, ?_, ?_⟩,
    ⟨reordered_listing (by decide) (List.reverse_perm _), by decide +kernel, ?_⟩,
    ⟨reordered_listing (by decide) (List.reverse_perm _), by decide +kernel, ?_⟩,
    ⟨reordered_listing (by decide) (List.reverse_perm _), by decide +kernel, ?_⟩⟩
  · rintro ⟨r, succeeds⟩
    have fails : resolves (listing listCycle) = false := by decide +kernel
    rw [resolves_of_resolvesTo succeeds] at fails
    cases fails
  · exact ⟨_, resolvesTo_resolved (by decide +kernel)⟩
  all_goals
    exact exists_resolvesTo (by decide +kernel) (by decide +kernel)

end Api
end Scaffold

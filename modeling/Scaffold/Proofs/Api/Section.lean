/-
Inner schemas at the places of named schemas. A reference to the whole section of named schemas reads
it as one schema, and what is inner to that is a named schema too. But it is defined under a name
that starts as the name of the section does, and so never under the name that the named schema gets
itself. Enums that are named schemas are therefore defined as enums: `run_sorted`.
-/
import Scaffold.Proofs.Api.Forms
import Scaffold.Proofs.Api.History
import Scaffold.Proofs.Json.Pointers
import Scaffold.Proofs.Text.Case

namespace Scaffold
namespace Api

open Resolver Resolve Json.Pointer

variable {document : Json}

/-! ## Names that start as the section does -/

/-- The text starts with the first letter of `Schemas` or of `Definitions`. -/
def FromSection (text : String) : Prop :=
  ∃ c ∈ ['S', 'D'], text.toList.head? = some c

theorem FromSection.append {text : String} (h : FromSection text) (suffix : String) :
    FromSection (text ++ suffix) := by
  obtain ⟨c, mem, first⟩ := h
  exact ⟨c, mem, by simp [first]⟩

theorem FromSection.nameFor {context : String} (h : FromSection context) (r : Resolver)
    (place : String) : FromSection (r.nameFor context place) := by
  obtain ⟨c, mem, first⟩ := h
  obtain ⟨inside, capital⟩ : Text.isAlphanumeric c = true ∧ Text.upperForm c = [c] := by
    rcases List.mem_cons.mp mem with rfl | mem
    · decide +kernel
    · rw [List.mem_singleton.mp mem]
      decide +kernel
  have base : (baseName context).toList.head? = some c := by
    have first := Text.pascalCase_head inside capital first
    simp only [baseName]
    split
    · next empty =>
      rw [String.isEmpty_iff.mp empty] at first
      cases first
    · exact first
  exact ⟨c, mem, nameFor_head base place⟩

/-- The segments that lead from a schema to an inner one. -/
def innerSegments : List String :=
  ["allOf", "oneOf", "anyOf", "items", "additionalProperties"]

theorem Schema.Inner.segment_mem {schema inner : Json} {segment : String}
    (h : Schema.Inner schema segment inner) : segment ∈ innerSegments := by
  cases h with
  | part => decide
  | variant key_mem =>
    rcases List.mem_cons.mp key_mem with rfl | key_mem
    · decide
    · rw [List.mem_singleton.mp key_mem]
      decide
  | items => decide
  | value => decide

/-- Where named schemas are. -/
theorem schemasPrefix_eq_or (document : Json) :
    schemasPrefix document = "#/definitions" ∨ schemasPrefix document = "#/components/schemas" := by
  unfold schemasPrefix
  split
  · exact .inl rfl
  · exact .inr rfl

/-- A named schema at an inner segment does not get a name like that of the section. -/
theorem not_fromSection_named {segment : String} (inner : segment ∈ innerSegments) (r : Resolver)
    (place : String) :
    ¬FromSection (r.nameFor (lastSegment (child (schemasPrefix document) segment)) place) := by
  have starts (base : String) (roots : base ∈ ["#/definitions", "#/components/schemas"]) :
      (baseName (lastSegment (child base segment))).toList.head? ∈
        [some 'A', some 'O', some 'I'] := by
    revert segment base
    decide +kernel
  have first := starts (schemasPrefix document) (by
    rcases schemasPrefix_eq_or document with root | root <;> simp [root])
  rintro ⟨c, mem, first'⟩
  simp only [List.mem_cons, List.not_mem_nil, or_false] at first
  rcases first with first | first | first <;>
    (rw [nameFor_head first place] at first'
     rw [← Option.some.inj first'] at mem
     exact absurd mem (by decide))

theorem fromSection_section (document : Json) (r : Resolver) (place : String) :
    FromSection (r.nameFor (lastSegment (schemasPrefix document)) place) := by
  rcases schemasPrefix_eq_or document with root | root
  · exact ⟨'D', by decide, nameFor_head (by rw [root]; decide +kernel) place⟩
  · exact ⟨'S', by decide, nameFor_head (by rw [root]; decide +kernel) place⟩

/-! ## Places in the section -/

/-- The section is not a part of a schema. -/
theorem parts_of_section {base segment : String} (h : child base segment = schemasPrefix document) :
    base = "#" ∧ segment = "definitions" ∨ base = "#/components" ∧ segment = "schemas" := by
  rcases schemasPrefix_eq_or document with root | root
  · exact .inl (child_inj (h.trans (root.trans (by decide : _ = child "#" "definitions"))))
  · exact .inr (child_inj (h.trans (root.trans (by decide : _ = child "#/components" "schemas"))))

theorem inner_ne_section {base segment : String} (inner : segment ∈ innerSegments) :
    child base segment ≠ schemasPrefix document := by
  intro same
  rcases parts_of_section same with ⟨-, rfl⟩ | ⟨-, rfl⟩
  · exact absurd inner (by decide)
  · exact absurd inner (by decide)

/-- Properties of a schema are neither the section nor in it. -/
theorem property_ne_section {base name : String} :
    child (child base "properties") name ≠ schemasPrefix document := by
  intro same
  rcases parts_of_section same with ⟨root, -⟩ | ⟨root, -⟩
  · have slash : '/' ∈ (child base "properties").toList := by simp [toList_child]
    rw [root] at slash
    exact absurd slash (by decide)
  · have parts := child_inj (root.trans (by decide : _ = child "#" "components"))
    exact absurd parts.2 (by decide)

theorem property_ne_named {base name key : String} :
    child (child base "properties") name ≠ child (schemasPrefix document) key := by
  intro same
  rcases parts_of_section (child_inj same).1 with ⟨-, root⟩ | ⟨-, root⟩
  · exact absurd root (by decide)
  · exact absurd root (by decide)

/-! ## Runs -/

/-- An enum at the place of a named schema is inner to the section, and named after it. -/
def InSection (document : Json) (schema : Json) (name place : String) : Prop :=
  ∀ key, place = child (schemasPrefix document) key → Schema.kind schema = .enum →
    key ∈ innerSegments ∧ FromSection name

/-- A call names what is inner to the section after it. -/
def Call.Inward (document : Json) : Call → Prop
  | .schema value context place =>
    (place = schemasPrefix document → FromSection context) ∧
      InSection document value context place
  | .object name value place => InSection document value name place
  | .members _ _ _ place _ => ∃ base, place = child base "properties"
  | _ => True

/-- Enums that are named schemas have names unlike that of the section, if they could be inner to
it, and what is defined under other names is an enum too. -/
structure Sorted (document : Json) (r : Resolver) : Prop where
  resolved : ∀ key target type, key ∈ innerSegments →
    lookup? document (child (schemasPrefix document) key) = some target →
    Schema.kind target = .enum →
    r.resolved.get? (child (schemasPrefix document) key) = some type → ¬FromSection type.name
  offered : ∀ key schema d, .offered (child (schemasPrefix document) key) (.schema schema) d ∈ r.history →
    Schema.kind schema = .enum → d.isEnum = true ∨ key ∈ innerSegments ∧ FromSection d.name

namespace Sorted

variable {r r' : Resolver}

theorem start (document : Json) : Sorted document .start where
  resolved _ _ _ _ _ _ found := by cases found
  offered _ _ _ mem := by cases mem

theorem of_same (h : Sorted document r) (resolved : r'.resolved = r.resolved)
    (history : r'.history = r.history) : Sorted document r' where
  resolved := resolved ▸ h.resolved
  offered := history ▸ h.offered

theorem claim (h : Sorted document r) (wanted place : String) :
    Sorted document (r.claim wanted place) where
  resolved := h.resolved
  offered key schema d mem := by
    rcases List.mem_cons.mp mem with new | old
    · cases new
    · exact h.offered key schema d old

theorem offer (h : Sorted document r) {place : String} {schema : Json} {d : TypeDefinition}
    (apart : d.isEnum = true ∨ InSection document schema d.name place) :
    Sorted document (r.offer place (.schema schema) d) where
  resolved := h.resolved
  offered key schema' d' mem kind := by
    rcases List.mem_cons.mp mem with new | old
    · injection new with same_place same_source same_definition
      injection same_source with same_schema
      subst same_place same_schema same_definition
      exact apart.imp_right fun inside => inside key rfl kind
    · exact h.offered key schema' d' old kind

theorem settle (h : Sorted document r) {reference : String} {o : Except Failure TypeExpr}
    (apart : ∀ key target type, key ∈ innerSegments → reference = child (schemasPrefix document) key →
      lookup? document reference = some target → Schema.kind target = .enum → o = .ok type →
      ¬FromSection type.name) : Sorted document (Resolve.settle r reference o) := by
  cases o with
  | error failure => exact h.of_same rfl rfl
  | ok type =>
    refine ⟨fun key target type' inner here kind found => ?_, h.offered⟩
    simp only [Resolve.settle, remember, KeyMap.get?_insert] at found
    split at found
    · next same =>
      rw [← Option.some.inj found]
      exact apart key target type inner same (same ▸ here) kind rfl
    · exact h.resolved key target type' inner here kind found

end Sorted

/-- An enum is known by the name that it was made for. -/
theorem run_enum_name {n : Nat} {name place : String} {schema : Json} {r r' : Resolver}
    {type : TypeExpr} (run : Run document n (.enum name schema place) r (.ok type) r') :
    type.name = name := by
  cases run
  rfl

theorem run_sorted {n : Nat} {c : Call} {r r' : Resolver} {o : Except Failure c.Answer}
    (run : Run document n c r o r') (h : Sorted document r) (inward : c.Inward document) :
    Sorted document r' := by
  induction run with
  | endless | known | lost | unclosed | plain | noEnum | seen | lostPart | noParts | noMembers =>
    exact h
  | closed => exact h.claim _ _
  | @madeEnum n reference place target r r' o new here free kind made ih =>
    refine (ih ((h.claim _ _).of_same rfl rfl) trivial).settle ?_
    rintro key _ type inner rfl - - rfl
    rw [run_enum_name made]
    exact not_fromSection_named inner _ _
  | madeObject new here free kind made ih =>
    refine (ih ((h.claim _ _).of_same rfl rfl) fun _ _ enum => ?_).settle ?_
    · rw [kind] at enum
      cases enum
    · intro key target type _ _ here' enum
      rw [here] at here'
      rw [← Option.some.inj here', kind] at enum
      cases enum
  | madeOther new here free kind made ih =>
    refine (ih ((h.claim _ _).of_same rfl rfl) ⟨?_, fun _ _ enum => ?_⟩).settle ?_
    · rintro rfl
      exact fromSection_section document _ _
    · rw [kind] at enum
      cases enum
    · intro key target type _ _ here' enum
      rw [here] at here'
      rw [← Option.some.inj here', kind] at enum
      cases enum
  | asked _ _ ih => exact ih h trivial
  | inner form _ ih =>
    have segment := (Schema.inner_of_form form).segment_mem
    refine ih h ⟨fun same => absurd same (inner_ne_section segment), fun key same _ => ?_⟩
    obtain ⟨root, rfl⟩ := child_inj same
    exact ⟨segment, (inward.1 root).append _⟩
  | inlineObject _ _ ih =>
    refine ih (h.claim _ _) fun key same kind => ?_
    obtain ⟨inner, named⟩ := inward.2 key same kind
    exact ⟨inner, named.nameFor _ _⟩
  | inlineEnum _ _ ih => exact ih (h.claim _ _) trivial
  | enum => exact h.offer (.inl rfl)
  | object _ ih => exact (ih h trivial).offer (.inr inward)
  | noObject _ ih => exact ih h trivial
  | followed _ _ _ _ ih => exact ih h trivial
  | own _ _ _ first second => exact second (first h trivial) ⟨_, rfl⟩
  | failedParts _ _ ih => exact ih h trivial
  | part _ _ first second => exact second (first h trivial) trivial
  | failedPart _ ih => exact ih h trivial
  | member _ _ first second =>
    obtain ⟨base, rfl⟩ := inward
    refine second (first h ⟨fun same => absurd same property_ne_section, fun key same => ?_⟩) ⟨_, rfl⟩
    exact absurd same property_ne_named
  | failedMember _ ih =>
    obtain ⟨base, rfl⟩ := inward
    exact ih h ⟨fun same => absurd same property_ne_section,
      fun key same => absurd same property_ne_named⟩

end Api
end Scaffold

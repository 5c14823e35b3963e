/-
Whatever an entity comes of, it is sound: a class, a class with the tables behind it, or a schema of
a document. So no generator has to check again what it relies on. The entity of a schema has the name of a
definition in the table, which can be seen, and so it is sound as well: `Api.sound_of_extractEntity`.
-/
import Scaffold.Api.Entity
import Scaffold.Input.Extract
import Scaffold.Proofs.Api.GivenNames
import Scaffold.Proofs.Database.Feed
import Scaffold.Proofs.Entity
import Scaffold.Proofs.Keyed

namespace Scaffold

/-! ## Entities from schemas -/

namespace Api

open Resolver Resolve

variable {table : TypeTable}

theorem clear_entityProperty (p : TypedProperty) : (entityProperty table p).Clear := by
  have shape := Property.shape_ofType (Text.pascalCase p.name)
    (p.type.mapInnermost fun inner => { inner with isEnum := table.isEnum inner.name })
  refine ⟨shape, rfl, rfl, ?_⟩
  simp only [entityProperty]
  grind

/-- An entity has a property for each one of its definition, under different names. -/
theorem entityOf_eq_ok_iff {d : TypeDefinition} {properties : List TypedProperty}
    {namespaceName path place : String} {e : Entity} :
    entityOf table d properties namespaceName path place = .ok e ↔
      ((properties.map (entityProperty table)).map (·.name)).Nodup ∧
        e = { Entity.empty d.name namespaceName with
          filePath := some path
          comment := d.comment
          properties := properties.map (entityProperty table) } := by
  let make (p : TypedProperty) : Except Failure Property := .ok (entityProperty table p)
  have made (made : List Property) : List.Forall₂ (fun p q => make p = .ok q) properties made ↔
      properties.map (entityProperty table) = made := by
    simp only [make, Except.ok.injEq]
    rw [← List.forall₂_map_left_iff, List.forall₂_eq_eq_eq]
  have none : ({ Entity.empty d.name namespaceName with
      filePath := some path, comment := d.comment } : Entity).propertyNames.Nodup := List.nodup_nil
  unfold entityOf
  refine (Entity.foldlM_eq_ok_iff (fun e p e' =>
    (?_ : _ ↔ ∃ q, make p = .ok q ∧ e.addProperty q = .ok e')) properties none).trans ?_
  · simp only [make, Except.ok.injEq, exists_eq_left']
    cases e.addProperty (entityProperty table p) <;> simp
  · simp only [made, exists_eq_left']
    rfl

/-- The entity for a definition with a visible name is sound: it has no navigations, and two
properties of a name are refused. -/
theorem sound_of_entityOf {d : TypeDefinition} {properties : List TypedProperty}
    {namespaceName path place : String} {e : Entity} (visible : Text.isBlankText d.name = false)
    (ok : entityOf table d properties namespaceName path place = .ok e) : e.Sound := by
  obtain ⟨distinct, rfl⟩ := entityOf_eq_ok_iff.mp ok
  have clear (q : Property) (mem : q ∈ properties.map (entityProperty table)) :
      q.Clear ∧ q.isNavigation = false := by
    obtain ⟨p, -, rfl⟩ := List.mem_map.mp mem
    exact ⟨clear_entityProperty p, rfl⟩
  refine ⟨visible, distinct, fun q mem => (clear q mem).1, ?_, by simp [Entity.empty]⟩
  have none : (properties.map (entityProperty table)).filter (·.isNavigation) = [] :=
    List.filter_eq_nil_iff.mpr fun q mem => by simp [(clear q mem).2]
  simp [Entity.empty, none]

theorem sound_of_extractEntity {document : Json} {schema path : String} {e : Entity}
    (ok : extractEntity document schema path = .ok e) : e.Sound := by
  let call := Call.reference (Json.Pointer.child (schemasPrefix document) schema)
    (schemasPrefix document)
  have run := Run.run_compute document (nestingBound document) call .start
  have recorded := run_recorded run .start trivial
  have visible := run_namesIn (P := (Text.isBlankText · = false)) isBlankText_candidate run .start trivial
  unfold extractEntity at ok
  split at ok
  · cases ok
  · next type resolver resolved =>
    have ends : outcome (call.compute document (nestingBound document)) .start =
        (.ok type, resolver) := resolved
    rw [ends] at recorded visible
    split at ok
    · next name comment properties found =>
      obtain ⟨place, source, offered⟩ := mem_of_firstOffered ((recorded.first _).symm.trans found)
      exact sound_of_entityOf (visible.names _ place (recorded.offered offered)) ok
    · cases ok

end Api

/-! ## All entities -/

namespace EntityInput

open Database

/-- Every extracted entity passes the checks of the model and is sound. -/
theorem extract_sound {input : EntityInput} {e : Entity} (ok : input.extract = .ok e) :
    e.validate = .ok () ∧ e.Sound := by
  have sound : e.Sound := by
    cases input with
    | declaration context d => exact Context.sound_of_extract ok
    | relational context model d =>
      obtain ⟨declared, first, second⟩ := eq_ok_of_bind ok
      exact MappingModel.sound_of_enrich (Context.sound_of_extract first) second
    | schema document name path => exact Api.sound_of_extractEntity ok
  exact ⟨sound.validate, sound⟩

theorem extract_sound_shop :
    ∃ d e, d ∈ (mappingModel shop).declarations "Shop" ∧ d.name = "Order" ∧
      ((mappingModel shop).classInput "Shop" d).extract = .ok e ∧ e.validate = .ok () ∧ e.Sound := by
  obtain ⟨d, mem, no_enum, named⟩ : ∃ d ∈ (mappingModel shop).declarations "Shop",
      d.isEnum = false ∧ d.name = "Order" := by
    decide
  obtain ⟨e, ok⟩ := extract_shop mem no_enum
  exact ⟨d, e, mem, named, ok, extract_sound ok⟩

end EntityInput
end Scaffold

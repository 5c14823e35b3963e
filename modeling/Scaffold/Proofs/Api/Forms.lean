/-
What the form and the kind of a schema say of it. `form_spec` reads the form once; everything else
about forms follows from it.
-/
import Scaffold.Api.Schema
import Scaffold.Proofs.Json.Values
import Scaffold.Proofs.TypeExpr.Names

namespace Scaffold
namespace Api
namespace Schema

/-- An inner schema that gives a schema its type, with the segment that is added for it. -/
inductive Inner (schema : Json) : String → Json → Prop where
  | part {inner : Json} (single : schema.itemsAt? "allOf" = some [inner]) :
      Inner schema "allOf" inner
  | variant {key : String} {variants : List Json} {inner : Json} (key_mem : key ∈ ["oneOf", "anyOf"])
      (variants_eq : schema.itemsAt? key = some variants)
      (single : variants.filter (!isNull ·) = [inner]) : Inner schema key inner
  | items {inner : Json} (items_eq : schema.get? "items" = some inner) :
      Inner schema "items" inner
  | value {inner : Json} (value_eq : schema.get? "additionalProperties" = some inner) :
      Inner schema "additionalProperties" inner

theorem variants?_spec {schema : Json} {key : String} {variants : List Json}
    (h : variants? schema = some (key, variants)) :
    key ∈ ["oneOf", "anyOf"] ∧ schema.itemsAt? key = some variants := by
  obtain ⟨key', mem, found⟩ := List.exists_of_findSome?_eq_some h
  obtain ⟨variants', found, same⟩ := Option.map_eq_some_iff.mp found
  injection same with same_key same_variants
  rw [← same_key, ← same_variants]
  exact ⟨mem, found⟩

theorem valueSchema?_spec {schema value : Json} (h : valueSchema? schema = some value) :
    schema.get? "additionalProperties" = some value :=
  (Option.filter_eq_some_iff.mp h).1

/-- What a form says of a schema. -/
def FormSpec (schema : Json) : Form → Prop
  | .reference reference _ => ref? schema = some reference
  | .inner inner _ segment _ => ref? schema = none ∧ Inner schema segment inner
  | .object _ => ref? schema = none ∧ ∀ single, schema.itemsAt? "allOf" ≠ some [single]
  | .enum _ => ref? schema = none ∧ isEnum schema = true
  | .plain type => ref? schema = none ∧ type.references = [] ∧ type.Resolved

/-- The primitive of a schema goes by its own name. -/
theorem scalarType_mem (schema : Json) : scalarType schema ∈ Primitive.all.map Primitive.name := by
  unfold scalarType stringType
  dsimp only
  split
  · split <;> decide
  · split <;> decide
  · split
    · decide
    · split <;> decide
  · decide
  · decide

theorem resolved_scalarType (schema : Json) : (TypeExpr.primitive (scalarType schema)).Resolved := by
  obtain ⟨p, -, same⟩ := List.mem_map.mp (scalarType_mem schema)
  rw [← same]
  exact .of_primitive p

theorem shapeForm_spec {schema : Json} (ref : ref? schema = none)
    (parts : schema.itemsAt? "allOf" = none) (nullable : Bool) :
    FormSpec schema (shapeForm nullable (shape schema)) := by
  unfold shape
  dsimp only
  split
  · cases found : schema.get? "items" with
    | none => exact ⟨ref, by simp, .list _ (.of_primitive .object)⟩
    | some items => exact ⟨ref, .items found⟩
  · split
    · exact ⟨ref, by simp [parts]⟩
    · split
      · cases found : valueSchema? schema with
        | none => exact ⟨ref, by simp, .dictionary _ (.of_primitive .object)⟩
        | some value => exact ⟨ref, .value (valueSchema?_spec found)⟩
      · exact ⟨ref, by simp, (resolved_scalarType schema).withNullable nullable⟩

theorem form_spec (schema : Json) : FormSpec schema (form schema) := by
  unfold form
  dsimp only
  split
  · next reference ref => exact ref
  · next ref =>
    split
    · next single found => exact ⟨ref, .part found⟩
    · next many found =>
      refine ⟨ref, fun single same => ?_⟩
      rw [same] at found
      exact many single (Option.some.inj found).symm
    · next parts =>
      split
      · next key variants found =>
        obtain ⟨key_mem, found⟩ := variants?_spec found
        split
        · next single others => exact ⟨ref, .variant key_mem found others⟩
        · exact ⟨ref, by simp, (TypeExpr.Resolved.of_primitive .object).withNullable _⟩
      · split
        · next isEnum => exact ⟨ref, isEnum⟩
        · exact shapeForm_spec ref parts _

variable {schema inner : Json} {reference suffix segment : String} {wrap : Wrap}

theorem ref?_of_form_reference (h : form schema = .reference reference wrap) :
    ref? schema = some reference := by
  have spec := form_spec schema
  rw [h] at spec
  exact spec

theorem form_of_ref? (ref : ref? schema = some reference) :
    form schema = .reference reference (.same (isNullable schema)) := by
  unfold form
  rw [ref]

theorem ref?_of_form_inner (h : form schema = .inner inner suffix segment wrap) :
    ref? schema = none := by
  have spec := form_spec schema
  rw [h] at spec
  exact spec.1

theorem inner_of_form (h : form schema = .inner inner suffix segment wrap) :
    Inner schema segment inner := by
  have spec := form_spec schema
  rw [h] at spec
  exact spec.2

theorem ref?_of_form_object {nullable : Bool} (h : form schema = .object nullable) :
    ref? schema = none := by
  have spec := form_spec schema
  rw [h] at spec
  exact spec.1

/-- An object that is not merged of two parts or more has no parts at all. -/
theorem itemsAt_allOf_of_form_object {nullable : Bool} (h : form schema = .object nullable)
    (few : (schema.itemsAt "allOf").length < 2) : schema.itemsAt "allOf" = [] := by
  have spec := form_spec schema
  rw [h] at spec
  unfold Json.itemsAt at few ⊢
  match found : schema.itemsAt? "allOf" with
  | none => rfl
  | some [] => rfl
  | some [single] => exact absurd found (spec.2 single)
  | some (_ :: _ :: _) =>
    rw [found] at few
    simp only [Option.getD_some, List.length_cons] at few
    omega

theorem ref?_of_form_enum {nullable : Bool} (h : form schema = .enum nullable) :
    ref? schema = none := by
  have spec := form_spec schema
  rw [h] at spec
  exact spec.1

/-- A type that depends on nothing else mentions no name. -/
theorem references_of_form_plain {type : TypeExpr} (h : form schema = .plain type) :
    type.references = [] := by
  have spec := form_spec schema
  rw [h] at spec
  exact spec.2.1

theorem resolved_of_form_plain {type : TypeExpr} (h : form schema = .plain type) : type.Resolved := by
  have spec := form_spec schema
  rw [h] at spec
  exact spec.2.2

theorem Inner.values_subset (h : Inner schema segment inner) : inner.values ⊆ schema.values := by
  intro v hv
  cases h with
  | part single =>
    exact Json.values_subset_of_get? (Json.get?_of_itemsAt? single)
      (Json.values_subset_of_mem_items List.mem_cons_self hv)
  | variant _ variants_eq single =>
    have mem : inner ∈ List.filter (!isNull ·) _ := single ▸ List.mem_cons_self
    exact Json.values_subset_of_get? (Json.get?_of_itemsAt? variants_eq)
      (Json.values_subset_of_mem_items ((List.mem_filter.mp mem).1) hv)
  | items found | value found => exact Json.values_subset_of_get? found hv

theorem Inner.size_lt (h : Inner schema segment inner) : inner.size < schema.size := by
  cases h with
  | part single =>
    have := Json.size_lt_of_get? (Json.get?_of_itemsAt? single)
    have := Json.size_lt_of_mem_items (List.mem_cons_self (a := inner) (l := []))
    omega
  | variant _ variants_eq single =>
    have mem : inner ∈ List.filter (!isNull ·) _ := single ▸ List.mem_cons_self
    have := Json.size_lt_of_get? (Json.get?_of_itemsAt? variants_eq)
    have := Json.size_lt_of_mem_items ((List.mem_filter.mp mem).1)
    omega
  | items found | value found => exact Json.size_lt_of_get? found

@[simp] theorem references_apply (wrap : Wrap) (t : TypeExpr) :
    (wrap.apply t).references = t.references := by
  cases wrap <;> simp [Wrap.apply]

theorem Wrap.resolved {t : TypeExpr} (h : t.Resolved) (wrap : Wrap) : (wrap.apply t).Resolved := by
  cases wrap with
  | same nullable => exact h.withNullable _
  | list nullable => exact .list nullable h
  | map nullable => exact .dictionary nullable h

theorem isEnum_of_kind_enum (h : kind schema = .enum) : isEnum schema = true := by
  unfold kind at h
  split at h
  · cases h
  · split at h
    · assumption
    · split at h <;> cases h

theorem isEnum_of_kind_object (h : kind schema = .object) : isEnum schema = false := by
  unfold kind at h
  split at h
  · cases h
  · split at h
    · cases h
    · next no_enum => exact Bool.eq_false_iff.mpr no_enum

theorem ref?_eq_none_of_kind (h : kind schema ≠ .other) : ref? schema = none := by
  unfold kind at h
  split at h
  · exact absurd rfl h
  · next none =>
    unfold has at none
    unfold ref? Json.strAt?
    cases found : schema.get? "$ref" with
    | none => rfl
    | some v =>
      rw [found] at none
      exact absurd rfl none

end Schema
end Api
end Scaffold

/-
What a document means, apart from any run. A reference or a schema denotes a type (`Denotes`), and an
object collects properties with such types (`Collects`). The names in them are places, or if names
matter, the names that are wanted for the places. Both are unique, so whatever resolves types as they
are meant does so in any order.
-/
import Scaffold.Proofs.Api.Cycles
import Scaffold.Proofs.Api.Promises
import Scaffold.Proofs.TypeExpr.View

namespace Scaffold
namespace Api

open Resolver Resolve Json.Pointer

variable {document : Json} {names : Bool}

/-! ## Types -/

/-- What stands for the name of a place: itself if names matter, and else the place. -/
def label : (names : Bool) → (name place : String) → String
  | true, name, _ => name
  | false, _, place => place

theorem label_congr {name name' : String} (same : names = true → name' = name) (place : String) :
    label names name' place = label names name place := by
  cases names with
  | false => rfl
  | true => rw [same rfl]

/-- What has a type. The context of a schema names what is inline. -/
inductive Query where
  | reference (reference : String)
  | schema (schema : Json) (context place : String)

/-- The type of a query, in which labels stand for the names of objects and enums. -/
inductive Denotes (document : Json) (names : Bool) : Query → TypeExpr → Prop where
  | enumReference {reference : String} {target : Json}
      (here : lookup? document reference = some target) (kind : Schema.kind target = .enum) :
      Denotes document names (.reference reference)
        (.enumeration (label names (baseName (lastSegment reference)) reference))
  | objectReference {reference : String} {target : Json}
      (here : lookup? document reference = some target) (kind : Schema.kind target = .object) :
      Denotes document names (.reference reference)
        (.reference (label names (baseName (lastSegment reference)) reference))
  | otherReference {reference : String} {target : Json} {type : TypeExpr}
      (here : lookup? document reference = some target) (kind : Schema.kind target = .other)
      (rest : Denotes document names
        (.schema target (baseName (lastSegment reference)) reference) type) :
      Denotes document names (.reference reference) type
  | asked {schema : Json} {context place reference : String} {wrap : Schema.Wrap} {type : TypeExpr}
      (form : Schema.form schema = .reference reference wrap)
      (rest : Denotes document names (.reference reference) type) :
      Denotes document names (.schema schema context place) (wrap.apply type)
  | inner {schema inner : Json} {context place suffix segment : String} {wrap : Schema.Wrap}
      {type : TypeExpr} (form : Schema.form schema = .inner inner suffix segment wrap)
      (rest : Denotes document names
        (.schema inner (context ++ suffix) (child place segment)) type) :
      Denotes document names (.schema schema context place) (wrap.apply type)
  | object {schema : Json} {context place : String} {nullable : Bool}
      (form : Schema.form schema = .object nullable) :
      Denotes document names (.schema schema context place)
        ((TypeExpr.reference (label names (baseName context) place)).withNullable nullable)
  | enum {schema : Json} {context place : String} {nullable : Bool}
      (form : Schema.form schema = .enum nullable) :
      Denotes document names (.schema schema context place)
        ((TypeExpr.enumeration (label names (baseName context) place)).withNullable nullable)
  | plain {schema : Json} {context place : String} {type : TypeExpr}
      (form : Schema.form schema = .plain type) :
      Denotes document names (.schema schema context place) type

theorem Denotes.unique {query : Query} {type type' : TypeExpr}
    (h : Denotes document names query type) (h' : Denotes document names query type') :
    type' = type := by
  induction h generalizing type' with
  | enumReference here kind =>
    cases h' with
    | enumReference => rfl
    | objectReference here' kind' | otherReference here' kind' =>
      rw [here] at here'
      rw [← Option.some.inj here', kind] at kind'
      cases kind'
  | objectReference here kind =>
    cases h' with
    | objectReference => rfl
    | enumReference here' kind' | otherReference here' kind' =>
      rw [here] at here'
      rw [← Option.some.inj here', kind] at kind'
      cases kind'
  | otherReference here kind _ ih =>
    cases h' with
    | enumReference here' kind' | objectReference here' kind' =>
      rw [here] at here'
      rw [← Option.some.inj here', kind] at kind'
      cases kind'
    | otherReference here' _ rest' =>
      rw [here] at here'
      rw [← Option.some.inj here'] at rest'
      exact ih rest'
  | asked form _ ih =>
    cases h' with
    | asked form' rest' =>
      rw [form] at form'
      injection form' with same_reference same_wrap
      rw [← same_reference] at rest'
      rw [ih rest', same_wrap]
    | inner form' | object form' | enum form' | plain form' =>
      rw [form] at form'
      cases form'
  | inner form _ ih =>
    cases h' with
    | inner form' rest' =>
      rw [form] at form'
      injection form' with same_inner same_suffix same_segment same_wrap
      rw [← same_inner, ← same_suffix, ← same_segment] at rest'
      rw [ih rest', same_wrap]
    | asked form' | object form' | enum form' | plain form' =>
      rw [form] at form'
      cases form'
  | object form | enum form | plain form =>
    cases h' with
    | asked form' | inner form' | object form' | enum form' | plain form' =>
      rw [form] at form'
      cases form' <;> rfl

def Query.under (context : String) : Query → Query
  | .reference asked => .reference asked
  | .schema value _ place => .schema value context place

/-- Where names do not matter, contexts do not. -/
theorem Denotes.under {query : Query} {type : TypeExpr} (h : Denotes document false query type)
    (context : String) : Denotes document false (query.under context) type := by
  have same (wanted place : String) :
      label false (baseName wanted) place = label false (baseName context) place :=
    label_congr (by simp) place
  induction h generalizing context with
  | enumReference here kind => exact .enumReference here kind
  | objectReference here kind => exact .objectReference here kind
  | otherReference here kind rest => exact .otherReference here kind rest
  | asked form rest => exact .asked form rest
  | inner form _ ih => exact .inner form (ih _ fun _ => label_congr (by simp))
  | object form =>
    rw [same]
    exact .object form
  | enum form =>
    rw [same]
    exact .enum form
  | plain form => exact .plain form

theorem Denotes.recontext {schema : Json} {context context' place : String} {type : TypeExpr}
    (h : Denotes document names (.schema schema context place) type)
    (same : names = true → context' = context) :
    Denotes document names (.schema schema context' place) type := by
  cases names with
  | false => exact h.under context'
  | true =>
    rw [same rfl]
    exact h

/-- What closes on an object denotes it, marks aside that no alias has. -/
theorem denotes_of_closes (names : Bool) {marks : Bool} {reference last : String}
    (closes : Closes document marks reference last)
    (kind : ∀ target, lookup? document last = some target → Schema.kind target = .object) :
    ∃ type, Denotes document names (.reference reference) type ∧
      type.view id marks = .reference (label names (baseName (lastSegment last)) last) := by
  induction closes with
  | @object reference object =>
    obtain ⟨target, here, -⟩ := object
    exact ⟨_, .objectReference here (kind target here), by simp⟩
  | @next reference next last target here ref plain _ ih =>
    obtain ⟨type, denotes, same⟩ := ih kind
    have other : Schema.kind target = .other := by
      by_contra other
      rw [Schema.ref?_eq_none_of_kind other] at ref
      cases ref
    refine ⟨_, .otherReference here other (.asked (Schema.form_of_ref? ref) denotes), ?_⟩
    have unmarked : (marks && (Schema.isNullable target || type.isNullable)) = false := by
      have inside : (marks && type.isNullable) = false := by
        rw [← TypeExpr.isNullable_view (f := id), same]
        rfl
      rw [Bool.and_or_distrib_left, inside]
      cases marks with
      | false => rfl
      | true => simp [plain rfl]
    rw [Schema.Wrap.apply, TypeExpr.view_withNullable, same, unmarked]
    rfl

/-! ## Properties -/

/-- What properties are collected from: a schema, its parts, or the properties it declares. The owner
names what is inline in them. -/
inductive Work where
  | whole (owner : String) (schema : Json) (place : String)
  | parts (owner : String) (parts : List (Json × Nat)) (place : String)
  | members (owner : String) (required : List String) (members : List (String × Json))
      (place : String)

/-- What is gathered, with types in which labels stand for names. -/
inductive Collects (document : Json) (names : Bool) : Work → Gathered → Gathered → Prop where
  | seen {owner place reference : String} {schema : Json} {g : Gathered}
      (ref : Schema.ref? schema = some reference) (old : reference ∈ g.seen) :
      Collects document names (.whole owner schema place) g g
  | followed {owner place reference : String} {schema target : Json} {g g' : Gathered}
      (ref : Schema.ref? schema = some reference) (new : reference ∉ g.seen)
      (here : lookup? document reference = some target)
      (rest : Collects document names (.whole owner target reference)
        { g with seen := reference :: g.seen } g') :
      Collects document names (.whole owner schema place) g g'
  | own {owner place : String} {schema : Json} {g g' g'' : Gathered}
      (ref : Schema.ref? schema = none)
      (parts : Collects document names
        (.parts owner (schema.itemsAt "allOf").zipIdx (child place "allOf")) g g')
      (members : Collects document names (.members owner (requiredNames schema)
        (schema.membersAt "properties") (child place "properties")) g' g'') :
      Collects document names (.whole owner schema place) g g''
  | noParts {owner place : String} {g : Gathered} : Collects document names (.parts owner [] place) g g
  | part {owner place : String} {part : Json} {i : Nat} {rest : List (Json × Nat)}
      {g g' g'' : Gathered}
      (first : Collects document names (.whole owner part (child place (toString i))) g g')
      (others : Collects document names (.parts owner rest place) g' g'') :
      Collects document names (.parts owner ((part, i) :: rest) place) g g''
  | noMembers {owner place : String} {required : List String} {g : Gathered} :
      Collects document names (.members owner required [] place) g g
  | member {owner name place : String} {required : List String} {value : Json}
      {rest : List (String × Json)} {type : TypeExpr} {g g' : Gathered}
      (first : Denotes document names
        (.schema value (owner ++ Text.pascalCase name) (child place name)) type)
      (others : Collects document names (.members owner required rest place) { g with
        properties := putProperty (typedProperty required name value type) g.properties } g') :
      Collects document names (.members owner required ((name, value) :: rest) place) g g'

def Work.under (owner : String) : Work → Work
  | .whole _ value place => .whole owner value place
  | .parts _ list place => .parts owner list place
  | .members _ required list place => .members owner required list place

/-- Where names do not matter, owners do not. -/
theorem Collects.under {work : Work} {g g' : Gathered} (h : Collects document false work g g')
    (owner : String) : Collects document false (work.under owner) g g' := by
  induction h with
  | seen ref old => exact .seen ref old
  | followed ref new here _ ih => exact .followed ref new here ih
  | own ref _ _ first second => exact .own ref first second
  | noParts => exact .noParts
  | part _ _ first second => exact .part first second
  | noMembers => exact .noMembers
  | member denotes _ ih => exact .member (denotes.under _) ih

theorem Collects.recontext {owner owner' place : String} {schema : Json} {g g' : Gathered}
    (h : Collects document names (.whole owner schema place) g g')
    (same : names = true → owner' = owner) :
    Collects document names (.whole owner' schema place) g g' := by
  cases names with
  | false => exact h.under owner'
  | true =>
    rw [same rfl]
    exact h

theorem Collects.unique {work : Work} {g g₁ g₂ : Gathered}
    (h : Collects document names work g g₁) (h' : Collects document names work g g₂) : g₂ = g₁ := by
  induction h generalizing g₂ with
  | seen ref old =>
    cases h' with
    | seen => rfl
    | followed ref' new =>
      rw [ref] at ref'
      exact absurd (Option.some.inj ref' ▸ old) new
    | own ref' =>
      rw [ref] at ref'
      cases ref'
  | followed ref new here _ ih =>
    cases h' with
    | seen ref' old =>
      rw [ref] at ref'
      exact absurd (Option.some.inj ref' ▸ old) new
    | followed ref' _ here' rest' =>
      rw [ref] at ref'
      have same := Option.some.inj ref'
      subst same
      rw [here] at here'
      rw [← Option.some.inj here'] at rest'
      exact ih rest'
    | own ref' =>
      rw [ref] at ref'
      cases ref'
  | own ref _ _ first second =>
    cases h' with
    | seen ref' | followed ref' =>
      rw [ref] at ref'
      cases ref'
    | own _ parts' members' =>
      rw [first parts'] at members'
      exact second members'
  | noParts | noMembers =>
    cases h'
    rfl
  | part _ _ first second =>
    cases h' with
    | part first' others' =>
      rw [first first'] at others'
      exact second others'
  | member denotes _ ih =>
    cases h' with
    | member denotes' others' =>
      rw [denotes.unique denotes'] at others'
      exact ih others'

end Api
end Scaffold

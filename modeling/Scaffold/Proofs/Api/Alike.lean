/-
Schemas that read alike, and documents whose references lead to such schemas. The keys on the way to
a schema section are not read of a schema, so schemas that differ only there have the same form, and
documents that match mean the same: what is gathered, met, denoted and collected in one is so in the
other.
-/
import Scaffold.Proofs.Api.Meaning
import Scaffold.Proofs.Api.Resolvable

namespace Scaffold
namespace Api

open Resolver Resolve Json.Pointer

/-! ## Schemas -/

def sectionKeys : List String :=
  ["definitions", "components", "schemas"]

/-- The schemas have the same members under all other keys. -/
def Alike (v v' : Json) : Prop :=
  ∀ key, key ∉ sectionKeys → v'.get? key = v.get? key

namespace Alike

variable {v v' : Json}

theorem refl (v : Json) : Alike v v :=
  fun _ _ => rfl

theorem symm (h : Alike v v') : Alike v' v :=
  fun key other => (h key other).symm

theorem get?_eq (h : Alike v v') (key : String) (other : key ∉ sectionKeys) :
    v'.get? key = v.get? key :=
  h key other

theorem ref?_eq (h : Alike v v') : Schema.ref? v' = Schema.ref? v := by
  unfold Schema.ref? Json.strAt?
  rw [h.get?_eq "$ref" (by decide)]

theorem parts_eq (h : Alike v v') : v'.itemsAt "allOf" = v.itemsAt "allOf" := by
  unfold Json.itemsAt Json.itemsAt?
  rw [h.get?_eq "allOf" (by decide)]

theorem properties_eq (h : Alike v v') : v'.membersAt "properties" = v.membersAt "properties" := by
  unfold Json.membersAt Json.membersAt?
  rw [h.get?_eq "properties" (by decide)]

theorem values_eq (h : Alike v v') : v'.itemsAt? "enum" = v.itemsAt? "enum" := by
  unfold Json.itemsAt?
  rw [h.get?_eq "enum" (by decide)]

theorem isEnum_eq (h : Alike v v') : Schema.isEnum v' = Schema.isEnum v := by
  rw [Schema.isEnum, Schema.isEnum, h.values_eq]

theorem typeName?_eq (h : Alike v v') : Schema.typeName? v' = Schema.typeName? v := by
  unfold Schema.typeName?
  rw [h.get?_eq "type" (by decide)]

theorem isNullable_eq (h : Alike v v') : Schema.isNullable v' = Schema.isNullable v := by
  unfold Schema.isNullable Json.boolAt?
  rw [h.get?_eq "type" (by decide), h.get?_eq "nullable" (by decide),
    h.get?_eq "x-nullable" (by decide)]

theorem has_eq (h : Alike v v') (key : String) (other : key ∉ sectionKeys) :
    Schema.has v' key = Schema.has v key := by
  rw [Schema.has, Schema.has, h.get?_eq key other]

theorem isObject_eq (h : Alike v v') : Schema.isObject v' = Schema.isObject v := by
  unfold Schema.isObject
  rw [h.has_eq "properties" (by decide), h.has_eq "allOf" (by decide), h.has_eq "$ref" (by decide),
    h.has_eq "additionalProperties" (by decide), h.typeName?_eq]

theorem kind_eq (h : Alike v v') : Schema.kind v' = Schema.kind v := by
  unfold Schema.kind
  rw [h.has_eq "$ref" (by decide), h.isEnum_eq, h.isObject_eq]

theorem variants?_eq (h : Alike v v') : Schema.variants? v' = Schema.variants? v := by
  unfold Schema.variants?
  simp only [List.findSome?_cons, List.findSome?_nil, Json.itemsAt?, h.get?_eq "oneOf" (by decide),
    h.get?_eq "anyOf" (by decide)]

theorem shape_eq (h : Alike v v') : Schema.shape v' = Schema.shape v := by
  unfold Schema.shape Schema.valueSchema? Schema.scalarType Schema.stringType Json.strAt?
  rw [h.typeName?_eq, h.has_eq "properties" (by decide), h.has_eq "additionalProperties" (by decide),
    h.get?_eq "items" (by decide), h.get?_eq "additionalProperties" (by decide),
    h.get?_eq "format" (by decide)]

theorem form_eq (h : Alike v v') : Schema.form v' = Schema.form v := by
  unfold Schema.form Json.itemsAt?
  rw [h.ref?_eq, h.isNullable_eq, h.get?_eq "allOf" (by decide), h.variants?_eq, h.isEnum_eq,
    h.shape_eq]

theorem requiredNames_eq (h : Alike v v') : requiredNames v' = requiredNames v := by
  unfold requiredNames Json.itemsAt Json.itemsAt?
  rw [h.get?_eq "required" (by decide)]

theorem description?_eq (h : Alike v v') : Schema.description? v' = Schema.description? v := by
  unfold Schema.description?
  rw [h.get?_eq "description" (by decide), h.get?_eq "title" (by decide)]

theorem enumDefinition_eq (h : Alike v v') (name : String) (values : List Json) :
    Schema.enumDefinition name v' values = Schema.enumDefinition name v values := by
  unfold Schema.enumDefinition Schema.enumMembers Schema.texts
  simp only [List.findSome?_cons, List.findSome?_nil, Json.itemsAt?, h.description?_eq,
    h.typeName?_eq, h.get?_eq "x-enum-varnames" (by decide), h.get?_eq "x-enumNames" (by decide),
    h.get?_eq "x-enum-descriptions" (by decide), h.get?_eq "x-enumDescriptions" (by decide)]

end Alike

/-! ## Documents -/

/-- The references of a document lead to schemas that are alike in another one. -/
def Matches (document document' : Json) : Prop :=
  ∀ reference v, lookup? document reference = some v →
    ∃ v', lookup? document' reference = some v' ∧ Alike v v'

variable {document document' v v' : Json}

theorem Gathers.of_matches (same : Matches document document') {last : Json} (alike : Alike v v')
    (h : Gathers document v last) : ∃ last', Alike last last' ∧ Gathers document' v' last' := by
  induction h generalizing v' with
  | here => exact ⟨v', alike, .here v'⟩
  | reference ref here _ ih =>
    obtain ⟨target', here', alike'⟩ := same _ _ here
    obtain ⟨last', alike_last, rest⟩ := ih alike'
    exact ⟨last', alike_last, .reference (alike.ref?_eq.trans ref) here' rest⟩
  | part ref mem _ ih =>
    obtain ⟨last', alike_last, rest⟩ := ih (.refl _)
    exact ⟨last', alike_last, .part (alike.ref?_eq.trans ref) (alike.parts_eq ▸ mem) rest⟩

theorem Owns.of_matches (same : Matches document document') {property : Json}
    (alike : Alike v v') (h : Owns document v property) : Owns document' v' property := by
  obtain ⟨last, name, gathers, ref, mem⟩ := h
  obtain ⟨last', alike, gathers⟩ := gathers.of_matches same alike
  exact ⟨last', name, gathers, alike.ref?_eq.trans ref, alike.properties_eq ▸ mem⟩

theorem Below.of_matches (same : Matches document document') {next : Json} (alike : Alike v v')
    (h : Below document v next) : Below document' v' next := by
  cases h with
  | inner form => exact .inner (alike.form_eq.trans form)
  | property form owns => exact .property (alike.form_eq.trans form) (owns.of_matches same alike)

theorem Enters.of_matches (same : Matches document document') {reference : String}
    (h : Enters document reference v) : ∃ v', Alike v v' ∧ Enters document' reference v' := by
  induction h with
  | target here kind =>
    obtain ⟨v', here', alike⟩ := same _ _ here
    exact ⟨v', alike, .target here' (alike.kind_eq.trans kind)⟩
  | property here kind owns =>
    obtain ⟨v', here', alike⟩ := same _ _ here
    exact ⟨_, .refl _, .property here' (alike.kind_eq.trans kind) (owns.of_matches same alike)⟩
  | further _ step ih =>
    obtain ⟨v', alike, enters⟩ := ih
    exact ⟨_, .refl _, .further enters (step.of_matches same alike)⟩

theorem Leads.of_matches (same : Matches document document') {reference next : String}
    (h : Leads document reference next) : Leads document' reference next := by
  obtain ⟨schema, wrap, enters, form⟩ := h
  obtain ⟨schema', alike, enters⟩ := enters.of_matches same
  exact ⟨schema', wrap, enters, alike.form_eq.trans form⟩

/-! ## Cycles -/

theorem LeadsToObject.of_matches (same : Matches document document') {reference : String}
    (h : LeadsToObject document reference) : LeadsToObject document' reference := by
  obtain ⟨target, here, ref, object⟩ := h
  obtain ⟨target', here', alike⟩ := same _ _ here
  refine ⟨target', here', alike.ref?_eq.trans ref, ?_⟩
  rw [alike.isObject_eq, alike.isEnum_eq]
  exact object

theorem Closes.of_matches (same : Matches document document') {marks : Bool}
    {reference last : String} (h : Closes document marks reference last) :
    Closes document' marks reference last := by
  induction h with
  | object object => exact .object (object.of_matches same)
  | next here ref plain _ ih =>
    obtain ⟨target', here', alike⟩ := same _ _ here
    refine .next here' (alike.ref?_eq.trans ref) (fun marked => ?_) ih
    exact alike.isNullable_eq.trans (plain marked)

/-- Documents that match each other and have the same named schemas. -/
structure Equivalent (document document' : Json) : Prop where
  forth : Matches document document'
  back : Matches document' document
  root : schemasPrefix document' = schemasPrefix document
  named : ∀ m, m ∈ namedSchemas document' ↔ m ∈ namedSchemas document

theorem Equivalent.symm (h : Equivalent document document') : Equivalent document' document where
  forth := h.back
  back := h.forth
  root := h.root.symm
  named m := (h.named m).symm

theorem AskedByNames.of_equivalent (same : Equivalent document document') {reference : String}
    (h : AskedByNames document reference) : AskedByNames document' reference := by
  obtain ⟨name, schema, mem, chain⟩ := h
  refine ⟨name, schema, (same.named _).mpr mem, ?_⟩
  rw [same.root]
  exact Relation.ReflTransGen.mono (fun _ _ => Leads.of_matches same.forth) _ _ chain

theorem OnCycle.of_equivalent (same : Equivalent document document') {reference : String}
    (h : OnCycle document reference) : OnCycle document' reference :=
  ⟨h.1.of_equivalent same,
    Relation.TransGen.mono (fun _ _ => Leads.of_matches same.forth) _ _ h.2⟩

theorem CyclesClose.of_equivalent (same : Equivalent document document')
    (h : CyclesClose document) : CyclesClose document' := by
  intro reference cyclic
  obtain ⟨last, closes⟩ := h reference (cyclic.of_equivalent same.symm)
  exact ⟨last, closes.of_matches same.forth⟩

theorem CyclesUnmarked.of_equivalent (same : Equivalent document document')
    (h : CyclesUnmarked document) : CyclesUnmarked document' := by
  intro reference target' next cyclic here' ref
  obtain ⟨target, here, alike⟩ := same.back reference target' here'
  rw [alike.ref?_eq.symm] at ref
  rw [alike.isNullable_eq.symm]
  exact h reference target next (cyclic.of_equivalent same.symm) here ref

theorem CyclesProper.of_equivalent (same : Equivalent document document')
    (h : CyclesProper document) : CyclesProper document' := by
  intro reference target' cyclic here' ref
  obtain ⟨target, here, alike⟩ := same.back reference target' here'
  rw [alike.ref?_eq.symm] at ref
  rw [(alike.has_eq "$ref" (by decide)).symm]
  exact h reference target (cyclic.of_equivalent same.symm) here ref

/-! ## What can be resolved -/

variable {given : String → Prop}

theorem Whole.of_equivalent (same : Equivalent document document') (alike : Alike v v')
    (h : Whole document v) : Whole document' v' := by
  intro last reference gathers ref
  obtain ⟨last', alike, gathers⟩ := gathers.of_matches same.back alike.symm
  obtain ⟨target, here⟩ := h last' reference gathers (alike.ref?_eq.trans ref)
  obtain ⟨target', here', _⟩ := same.forth reference target here
  exact ⟨target', here'⟩

theorem Resolvable.of_equivalent (same : Equivalent document document') (alike : Alike v v')
    (h : Resolvable document given v) : Resolvable document' given v' := by
  induction h generalizing v' with
  | mk asks whole _ ih =>
    refine .mk (fun reference wrap form => asks reference wrap (alike.form_eq ▸ form))
      (fun nullable form => ?_) fun next step => ?_
    · exact (whole nullable (alike.form_eq ▸ form)).of_equivalent same alike
    · exact ih next (step.of_matches same.back alike.symm) (.refl next)

theorem Collectable.of_equivalent (same : Equivalent document document') (alike : Alike v v')
    (h : Collectable document given v) : Collectable document' given v' where
  whole := h.whole.of_equivalent same alike
  owned property owns :=
    (h.owned property (owns.of_matches same.back alike.symm)).of_equivalent same (.refl property)

theorem Consistent.of_equivalent (same : Equivalent document document')
    (h : Consistent document given) : Consistent document' given := by
  intro reference asked
  obtain ⟨target, here, object, other⟩ := h reference asked
  obtain ⟨target', here', alike⟩ := same.forth reference target here
  refine ⟨target', here', fun kind => ?_, fun kind => ?_⟩
  · exact (object (alike.kind_eq ▸ kind)).of_equivalent same alike
  · exact (other (alike.kind_eq ▸ kind)).of_equivalent same alike

theorem HasNames.of_equivalent (same : Equivalent document document')
    (h : HasNames document given) : HasNames document' given := by
  intro name schema mem
  rw [same.root]
  exact h name schema ((same.named _).mp mem)

/-! ## What is meant -/

/-- The queries are for the same reference, or for alike schemas at the same place. -/
inductive Query.Alike : Query → Query → Prop where
  | reference (reference : String) : Query.Alike (.reference reference) (.reference reference)
  | schema {schema schema' : Json} (alike : Api.Alike schema schema') (context place : String) :
      Query.Alike (.schema schema context place) (.schema schema' context place)

theorem Denotes.of_matches (same : Matches document document') {names : Bool} {query query' : Query}
    {type : TypeExpr} (alike : query.Alike query') (h : Denotes document names query type) :
    Denotes document' names query' type := by
  induction h generalizing query' with
  | enumReference here kind =>
    obtain ⟨⟩ := alike
    obtain ⟨target', here', alike⟩ := same _ _ here
    exact .enumReference here' (alike.kind_eq.trans kind)
  | objectReference here kind =>
    obtain ⟨⟩ := alike
    obtain ⟨target', here', alike⟩ := same _ _ here
    exact .objectReference here' (alike.kind_eq.trans kind)
  | otherReference here kind _ ih =>
    obtain ⟨⟩ := alike
    obtain ⟨target', here', alike⟩ := same _ _ here
    exact .otherReference here' (alike.kind_eq.trans kind) (ih (.schema alike _ _))
  | asked form _ ih =>
    cases alike with
    | schema alike => exact .asked (alike.form_eq.trans form) (ih (.reference _))
  | inner form _ ih =>
    cases alike with
    | schema alike => exact .inner (alike.form_eq.trans form) (ih (.schema (.refl _) _ _))
  | object form =>
    cases alike with
    | schema alike => exact .object (alike.form_eq.trans form)
  | enum form =>
    cases alike with
    | schema alike => exact .enum (alike.form_eq.trans form)
  | plain form =>
    cases alike with
    | schema alike => exact .plain (alike.form_eq.trans form)

/-- The works are the same, or on alike schemas at the same place. -/
inductive Work.Alike : Work → Work → Prop where
  | whole {owner : String} {schema schema' : Json} (alike : Api.Alike schema schema')
      (place : String) : Work.Alike (.whole owner schema place) (.whole owner schema' place)
  | parts (owner : String) (list : List (Json × Nat)) (place : String) :
      Work.Alike (.parts owner list place) (.parts owner list place)
  | members (owner : String) (required : List String) (list : List (String × Json))
      (place : String) :
      Work.Alike (.members owner required list place) (.members owner required list place)

theorem Collects.of_matches (same : Matches document document') {names : Bool} {work work' : Work}
    {g g' : Gathered} (alike : work.Alike work') (h : Collects document names work g g') :
    Collects document' names work' g g' := by
  induction h generalizing work' with
  | seen ref old =>
    cases alike with
    | whole alike => exact .seen (alike.ref?_eq.trans ref) old
  | followed ref new here _ ih =>
    cases alike with
    | whole alike =>
      obtain ⟨target', here', alike'⟩ := same _ _ here
      exact .followed (alike.ref?_eq.trans ref) new here' (ih (.whole alike' _))
  | own ref _ _ first second =>
    cases alike with
    | whole alike =>
      refine .own (alike.ref?_eq.trans ref) (alike.parts_eq ▸ first (.parts ..)) ?_
      rw [alike.requiredNames_eq, alike.properties_eq]
      exact second (.members ..)
  | noParts =>
    cases alike
    exact .noParts
  | part _ _ first second =>
    cases alike
    exact .part (first (.whole (.refl _) _)) (second (.parts ..))
  | noMembers =>
    cases alike
    exact .noMembers
  | member denotes _ ih =>
    cases alike
    exact .member (denotes.of_matches same (.schema (.refl _) _ _)) (ih (.members ..))

end Api
end Scaffold

/-
Entries of the table are not shared. What is offered under one name is made of one schema, as long
as no reference leads among the paths, where places do not always say what is found there; only a
form and its first field may meet, since both claim names at the place of the field:
`unshared_of_reached`, `shared_by_namelessField`.
-/
import Scaffold.Proofs.Api.Ownership

namespace Scaffold
namespace Api

open Resolver Resolve Json.Pointer

variable {document : Json}

/-! ## Places of operations -/

/-- What a value describes does not depend on where it is asked for. -/
theorem deref_place {place : String} (place' : String) {fuel : Nat} {seen : List String}
    {value target : Json} (h : deref document place fuel seen value = .ok target) :
    deref document place' fuel seen value = .ok target := by
  induction fuel generalizing seen value with
  | zero => cases h
  | succ fuel ih =>
    rw [deref] at h ⊢
    split at h
    · exact h
    · split at h
      · cases h
      · next reference _ new =>
        rw [if_neg new]
        unfold follow at h ⊢
        cases here : lookup? document reference with
        | none =>
          rw [here] at h
          cases h
        | some next =>
          rw [here] at h
          exact ih h

/-- What a value of the document describes. -/
def target? (document value : Json) : Option Json :=
  (described document value "").toOption

theorem target?_of_described {place : String} {value target : Json}
    (h : described document value place = .ok target) : target? document value = some target := by
  have described_eq : described document value "" = .ok target := deref_place "" h
  rw [target?, described_eq]
  rfl

/-- The operation at a path with a method, and the parameters that the path shares. -/
def operationAt? (document : Json) (path method : String) : Option (Json × List Json) :=
  (Json.lookup path (document.membersAt "paths")).bind fun item =>
    (target? document item).bind fun target =>
      (target.get? method).map fun op => (op, target.itemsAt "parameters")

/-- A parameter starts at its schema, or at itself if it has none or is a field. -/
def startOfParameter? (value : Json) (rest : List String) : Option (Json × List String) :=
  if IsField value then some (value, rest)
  else
    match value.get? "schema" with
    | none => some (value, rest)
    | some schema =>
      match rest with
      | "schema" :: rest => some (schema, rest)
      | _ => none

/-- Where the reading starts in an operation. -/
def startOfOperation? (document op : Json) (shared : List Json) :
    List String → Option (Json × List String)
  | "parameters" :: i :: rest =>
    (index? i).bind fun i => (shared ++ op.itemsAt "parameters")[i]?.bind fun value =>
      (target? document value).bind (startOfParameter? · rest)
  | "requestBody" :: "content" :: kind :: "schema" :: rest =>
    (op.get? "requestBody").bind fun value => (target? document value).bind fun target =>
      (Json.lookup kind (target.membersAt "content")).bind fun media =>
        (media.get? "schema").map (·, rest)
  | "responses" :: code :: "schema" :: rest =>
    ((op.get? "responses").bind Json.members?).bind fun responses =>
      (Json.lookup code responses).bind fun response => (target? document response).bind fun answer =>
        (responseSchema? answer).map (·, rest)
  | _ => none

theorem startOfParameter?_append {value v : Json} {rest rest' : List String} (segment : String)
    (h : startOfParameter? value rest = some (v, rest')) :
    startOfParameter? value (rest ++ [segment]) = some (v, rest' ++ [segment]) := by
  unfold startOfParameter? at h ⊢
  split
  · next field =>
    rw [if_pos field] at h
    injection h with h
    injection h with same_value same_rest
    rw [same_value, same_rest]
  · next no_field =>
    rw [if_neg no_field] at h
    split at h
    · injection h with h
      injection h with same_value same_rest
      rw [same_value, same_rest]
    · split at h
      · injection h with h
        injection h with same_value same_rest
        rw [same_value, ← same_rest]
        rfl
      · cases h

theorem startOfOperation?_append {op v : Json} {shared : List Json} {segments rest : List String}
    (segment : String) (h : startOfOperation? document op shared segments = some (v, rest)) :
    startOfOperation? document op shared (segments ++ [segment]) = some (v, rest ++ [segment]) := by
  have same {schema? : Option Json} {inside : List String}
      (h : schema?.map (·, inside) = some (v, rest)) :
      schema?.map (·, inside ++ [segment]) = some (v, rest ++ [segment]) := by
    obtain ⟨schema, found, pair⟩ := Option.map_eq_some_iff.mp h
    injection pair with same_value same_rest
    rw [found, same_value, same_rest]
    rfl
  unfold startOfOperation? at h
  split at h
  · obtain ⟨i, index, h⟩ := Option.bind_eq_some_iff.mp h
    obtain ⟨value, item, h⟩ := Option.bind_eq_some_iff.mp h
    obtain ⟨target, target_eq, h⟩ := Option.bind_eq_some_iff.mp h
    simp [startOfOperation?, index, item, target_eq, startOfParameter?_append segment h]
  · obtain ⟨value, body, h⟩ := Option.bind_eq_some_iff.mp h
    obtain ⟨target, target_eq, h⟩ := Option.bind_eq_some_iff.mp h
    obtain ⟨media, media_eq, h⟩ := Option.bind_eq_some_iff.mp h
    simp [startOfOperation?, body, target_eq, media_eq, same h]
  · obtain ⟨responses, members, h⟩ := Option.bind_eq_some_iff.mp h
    obtain ⟨response, found, h⟩ := Option.bind_eq_some_iff.mp h
    obtain ⟨answer, answer_eq, h⟩ := Option.bind_eq_some_iff.mp h
    simp [startOfOperation?, members, found, answer_eq, same h]
  · cases h

/-- Places among the paths are read from the operations, others from the whole document. -/
def startAmongOperations? (document : Json) : List String → Option (Json × List String)
  | "paths" :: path :: method :: inside =>
    (operationAt? document path method).bind fun (op, shared) =>
      startOfOperation? document op shared inside
  | "paths" :: _ => none
  | segments => some (document, segments)

theorem startAmongOperations?_outside {segments : List String}
    (outside : segments.head? ≠ some "paths") :
    startAmongOperations? document segments = some (document, segments) := by
  unfold startAmongOperations?
  split
  · exact absurd rfl outside
  · exact absurd rfl outside
  · rfl

def Layout.operations (document : Json) : Layout where
  start? := startAmongOperations? document
  start?_append {segments rest v} segment h apart := by
    unfold startAmongOperations? at h
    split at h
    · obtain ⟨⟨op, shared⟩, found, h⟩ := Option.bind_eq_some_iff.mp h
      simp [startAmongOperations?, found, startOfOperation?_append segment h]
    · cases h
    · next outside =>
      injection h with h
      injection h with same_value same_rest
      rw [← same_value, ← same_rest]
      refine startAmongOperations?_outside fun head => ?_
      cases segments with
      | nil => exact apart rfl (Option.some.inj head)
      | cons first others =>
        rw [← Option.some.inj head] at outside
        exact outside others rfl

/-! ## What the operations ask for is at its place -/

/-- An operation is the one that its place says. -/
theorem Endpoint.spec (distinct : DistinctKeys document) {place : String} {op : Json}
    {shared : List Json} (h : Endpoint document place op shared) :
    ∃ path method, place = child (child "#/paths" path) method ∧
      segmentsOf place = some ["paths", path, method] ∧
      operationAt? document path method = some (op, shared) := by
  cases h with
  | @mk path method item target op item_mem item_described _ op_eq =>
    have root : segmentsOf "#/paths" = some ["paths"] := rfl
    have segments := segmentsOf_child method (segmentsOf_child path root)
    refine ⟨path, method, rfl, segments, ?_⟩
    obtain ⟨members, found, mem⟩ := Json.membersAt?_of_mem item_mem
    have members_inside : Json.object members ∈ document.values :=
      Json.values_subset_of_get? (Json.get?_of_membersAt? found) (Json.mem_values_self _)
    have keys : (members.map (·.1)).Nodup := distinct _ members_inside
    have item_eq : Json.lookup path (document.membersAt "paths") = some item := by
      rw [Json.membersAt, found]
      exact Json.lookup_of_mem keys mem
    simp [operationAt?, item_eq, target?_of_described item_described, op_eq]

theorem Input.start?_eq (distinct : DistinctKeys document) {place : String} {value : Json}
    (h : Input document place value) :
    ∃ segments, segmentsOf place = some segments ∧ ∀ rest,
      startAmongOperations? document (segments ++ rest) = startOfParameter? value rest := by
  cases h with
  | @mk place op item _ shared i endpoint mem value_described =>
    obtain ⟨path, method, _, segments, found⟩ := endpoint.spec distinct
    have inside := segmentsOf_child (toString i) (segmentsOf_child "parameters" segments)
    refine ⟨_, inside, fun rest => ?_⟩
    have item_eq : (shared ++ op.itemsAt "parameters")[i]? = some item :=
      List.mem_zipIdx_iff_getElem?.mp mem
    have start : startOfOperation? document op shared ("parameters" :: toString i :: rest) =
        startOfParameter? value rest := by
      rw [startOfOperation?, index?_toString, Option.bind_some, item_eq, Option.bind_some,
        target?_of_described value_described, Option.bind_some]
    simp only [List.cons_append, List.nil_append, startAmongOperations?, found, Option.bind_some,
      start]

theorem located_of_asked (distinct : DistinctKeys document) {place : String} {schema : Json}
    (asked : OperationSchema document place schema) :
    Located (.operations document) place schema := by
  cases asked with
  | parameter input no_field schema_eq =>
    obtain ⟨segments, found, starts⟩ := input.start?_eq distinct
    refine located_of_start? (segmentsOf_child "schema" found) ((starts _).trans ?_)
    simp [startOfParameter?, no_field, schema_eq]
  | bare input none =>
    obtain ⟨segments, found, starts⟩ := input.start?_eq distinct
    have start := starts []
    rw [List.append_nil] at start
    refine located_of_start? found (start.trans ?_)
    simp [startOfParameter?, none]
  | field input field =>
    obtain ⟨segments, found, starts⟩ := input.start?_eq distinct
    have start := starts []
    rw [List.append_nil] at start
    refine located_of_start? found (start.trans ?_)
    simp [startOfParameter?, field]
  | body endpoint body value_described content schema_eq =>
    obtain ⟨path, method, _, segments, found⟩ := endpoint.spec distinct
    obtain ⟨_, _, picked⟩ := List.exists_of_findSome?_eq_some content
    obtain ⟨_, media_eq, same⟩ := Option.map_eq_some_iff.mp picked
    injection same with same_kind same_media
    subst same_kind same_media
    refine located_of_start? (segmentsOf_child "schema" (segmentsOf_child _
      (segmentsOf_child "content" (segmentsOf_child "requestBody" segments)))) ?_
    simp [Layout.operations, startAmongOperations?, found, startOfOperation?, body,
      target?_of_described value_described, media_eq, schema_eq]
  | answer endpoint responses_eq members first =>
    obtain ⟨path, method, _, segments, found⟩ := endpoint.spec distinct
    obtain ⟨response, answer, response_eq, answer_described, some⟩ := first.spec
    refine located_of_start? (segmentsOf_child "schema"
      (segmentsOf_child _ (segmentsOf_child "responses" segments))) ?_
    simp [Layout.operations, startAmongOperations?, found, startOfOperation?, responses_eq,
      members, response_eq, target?_of_described answer_described, some]

/-! ## What is offered at a place -/

/-- A form is the one that its first field belongs to. -/
theorem OperationForm.unique (distinct : DistinctKeys document) {first first' : Json × String}
    {rest rest' : List (Json × String)} (h : OperationForm document (first :: rest))
    (h' : OperationForm document (first' :: rest')) (same : first'.2 = first.2) :
    first' :: rest' = first :: rest := by
  have spec {fields : List (Json × String)} {first : Json × String}
      (h : OperationForm document fields) (mem : first ∈ fields) :
      ∃ path method op shared i, operationAt? document path method = some (op, shared) ∧
        segmentsOf first.2 = some ["paths", path, method, "parameters", i] ∧
        fields = (shared ++ op.itemsAt "parameters").zipIdx.filterMap
          (field? document (child (child (child "#/paths" path) method) "parameters")) := by
    obtain ⟨endpoint⟩ := h
    obtain ⟨path, method, rfl, segments, found⟩ := endpoint.spec distinct
    obtain ⟨⟨value, i⟩, _, is_field⟩ := List.mem_filterMap.mp mem
    refine ⟨path, method, _, _, toString i, found, ?_, rfl⟩
    rw [(field?_spec is_field).1]
    exact segmentsOf_child (toString i) (segmentsOf_child "parameters" segments)
  obtain ⟨path, method, op, shared, i, found, segments, fields⟩ := spec h List.mem_cons_self
  obtain ⟨path', method', op', shared', i', found', segments', fields'⟩ :=
    spec h' List.mem_cons_self
  rw [same, segments] at segments'
  injection segments' with segments'
  simp only [List.cons.injEq] at segments'
  obtain ⟨_, same_path, same_method, _⟩ := segments'
  subst same_path same_method
  rw [found] at found'
  injection found' with found'
  injection found' with same_op same_shared
  rw [fields', fields, same_op, same_shared]

/-- A form, and the schema that its first field is. -/
inductive FirstField : Source → Source → Prop where
  | mk {field : Json} {rest : List Json} : FirstField (.form (field :: rest)) (.schema field)

/-- What can be offered at a place: the schema there, or a form that starts there. -/
inductive FromOperation (document : Json) : String → Source → Prop where
  | schema {place : String} {source : Source}
      (at_place : FromSchema (.operations document) place source) :
      FromOperation document place source
  | form {first : Json × String} {rest : List (Json × String)}
      (form : OperationForm document (first :: rest)) :
      FromOperation document first.2 (.form ((first :: rest).map (·.1)))

/-- A schema at the place of a form is its first field. -/
theorem FirstField.of_form (distinct : DistinctKeys document) {first : Json × String}
    {rest : List (Json × String)} {source : Source} (form : OperationForm document (first :: rest))
    (at_place : FromSchema (.operations document) first.2 source) :
    FirstField (.form ((first :: rest).map (·.1))) source := by
  obtain ⟨input, field⟩ := form.input List.mem_cons_self
  have here := located_of_asked distinct (.field input field)
  obtain ⟨located⟩ := at_place
  obtain ⟨members, object, _⟩ := Json.mem_members_of_get? (Json.get?_of_strAt? field)
  rw [object] at here
  rw [← located_unique here located, ← object]
  exact .mk

theorem FromOperation.unique (distinct : DistinctKeys document) {place : String}
    {source source' : Source} (h : FromOperation document place source)
    (h' : FromOperation document place source') :
    source' = source ∨ FirstField source source' ∨ FirstField source' source := by
  cases h with
  | schema at_place =>
    cases h' with
    | schema at_place' => exact .inl (at_place.unique at_place')
    | form form => exact .inr (.inr (.of_form distinct form at_place))
  | @form first rest form =>
    generalize place_eq : first.2 = place at h'
    cases h' with
    | schema at_place => exact .inr (.inl (.of_form distinct form (place_eq ▸ at_place)))
    | form form' => exact .inl (by rw [form.unique distinct form' place_eq.symm])

/-! ## All entries -/

/-- The reference leads somewhere among the paths. -/
def LeadsAmongPaths (reference : String) : Prop :=
  (segmentsOf reference).bind List.head? = some "paths"

/-- No reference of the document leads among its paths. -/
def OutsidePaths (document : Json) : Prop :=
  ∀ v ∈ document.values, ∀ reference ∈ Schema.ref? v, ¬LeadsAmongPaths reference

instance (reference : String) : Decidable (LeadsAmongPaths reference) :=
  inferInstanceAs (Decidable (_ = _))

instance (document : Json) : Decidable (OutsidePaths document) :=
  inferInstanceAs (Decidable (∀ v ∈ document.values, ∀ reference ∈ Schema.ref? v, _))

theorem covers_outside {reference : String} (outside : ¬LeadsAmongPaths reference) :
    Covers document (.operations document) reference := by
  intro v here
  refine located_of_lookup? (fun segments found => ?_) here
  refine startAmongOperations?_outside fun head => outside ?_
  rw [LeadsAmongPaths, found]
  exact head

theorem named_outside (document : Json) (name : String) :
    ¬LeadsAmongPaths (child (schemasPrefix document) name) := by
  unfold LeadsAmongPaths schemasPrefix
  split
  · have root : segmentsOf "#/definitions" = some ["definitions"] := rfl
    simp [segmentsOf_child name root]
  · have root : segmentsOf "#/components/schemas" = some ["components", "schemas"] := rfl
    simp [segmentsOf_child name root]

/-- The states of a resolver that is asked for named schemas and for the operations. -/
inductive ReachedByDocument (document : Json) : Resolver → Prop where
  | start : ReachedByDocument document .start
  | all {r : Resolver} (before : ReachedByDocument document r) :
      ReachedByDocument document (outcome (allNamed document) r).2
  | named {r : Resolver} (before : ReachedByDocument document r) (name : String) :
      ReachedByDocument document (outcome (ofName document name) r).2
  | operations {r : Resolver} (before : ReachedByDocument document r) :
      ReachedByDocument document (outcome (operations document) r).2

theorem ReachedByDocument.reached {r : Resolver} (h : ReachedByDocument document r) :
    Reached document r := by
  induction h with
  | start => exact .start
  | all _ ih => exact .all ih
  | named _ name ih => exact .named ih name
  | operations _ ih => exact .operations ih

/-- Where loading a document ends. -/
theorem reachedByDocument_everything (document : Json) :
    ReachedByDocument document (outcome (everything document) .start).2 := by
  have all := ReachedByDocument.all (.start : ReachedByDocument document .start)
  rw [everything, outcome_bind]
  generalize outcome (allNamed document) .start = o at all ⊢
  obtain ⟨failure | _, r⟩ := o
  · exact all
  · exact all.operations

theorem steady_offers (distinct : DistinctKeys document)
    (covers : CoversAll document (.operations document)) :
    Steady document (Offers (FromOperation document)) (fun _ _ => True)
      fun _ => Offers (FromOperation document) where
  lasting _ := .const True
  fails offers _ := offers
  schema {schema context place} asked :=
    .of_run (c := .schema schema context place) fun run offers =>
      run_sited distinct covers .schema run offers
        ⟨asked.mem_values, located_of_asked distinct asked⟩
  claim _ _ offers := offers.claim _ _
  form form offers _ _ := ⟨offers.offer (.form form) _, trivial⟩

theorem ReachedByDocument.offers (distinct : DistinctKeys document)
    (outside : OutsidePaths document) {r : Resolver} (h : ReachedByDocument document r) :
    Offers (FromOperation document) r := by
  have covers : CoversAll document (.operations document) :=
    fun v inside reference ref => covers_outside (outside v inside reference ref)
  have named (name : String) := ensures_ofName_offers distinct covers FromOperation.schema
    (covers_outside (named_outside document name))
  induction h with
  | start => exact .start
  | all _ ih => exact (ensures_allNamed fun {name _} _ => named name).kept ih
  | named _ name ih => exact (named name).kept ih
  | operations _ ih => exact (steady_offers distinct covers).operations_spec.kept ih

/-- Definitions that are offered under one name are made of sources that are so related. -/
def SameSource (related : Source → Source → Prop) (r : Resolver) : Prop :=
  ∀ place source d place' source' d', .offered place source d ∈ r.history →
    .offered place' source' d' ∈ r.history → d'.name = d.name → related source source'

theorem Unshared.sameSource {P : String → Source → Prop} {related : Source → Source → Prop}
    {r : Resolver} (h : Unshared r) (offers : Offers P r)
    (unique : ∀ {place source source'}, P place source → P place source' →
      related source source') : SameSource related r := by
  intro place source d place' source' d' offered offered' same
  have same_place := h.offers _ _ _ _ _ _ offered offered' same
  have here := offers _ _ _ offered'
  rw [same_place] at here
  exact unique (offers _ _ _ offered) here

/-- Names are never shared by two places, whatever is asked. While only named schemas are asked
for, no two schemas share an entry. With the operations of a document too, whose references do
not lead among its paths, only a form can share an entry with its own first field. -/
theorem unshared_of_reached (distinct : DistinctKeys document) :
    (∀ r, Reached document r → Unshared r) ∧
    (∀ r, ReachedByNames document r → SameSource (fun source source' => source' = source) r) ∧
    (OutsidePaths document → ∀ r, ReachedByDocument document r →
      SameSource (fun source source' =>
        source' = source ∨ FirstField source source' ∨ FirstField source' source) r) := by
  refine ⟨fun r reached => reached.recorded.unshared, fun r reached => ?_, ?_⟩
  · exact reached.reached.recorded.unshared.sameSource (reached.offers distinct)
      FromSchema.unique
  · intro outside r reached
    exact reached.reached.recorded.unshared.sameSource (reached.offers distinct outside)
      (FromOperation.unique distinct)

/-- An operation with a form whose only field has no letter in its name. -/
def namelessField : Json :=
  .object [("swagger", .string "2.0"), ("paths", .object [("/x", .object [("post", .object [
    ("operationId", .string "up"),
    ("parameters", .array [.object [("name", .string "-"), ("in", .string "formData"),
      ("type", .string "string"), ("enum", .array [.string "a", .string "b"])]])])])])]

theorem unshared_of_reached_namelessField :
    DistinctKeys namelessField ∧ OutsidePaths namelessField ∧
    (∀ r, Reached namelessField r → Unshared r) ∧
    (∀ r, ReachedByNames namelessField r →
      SameSource (fun source source' => source' = source) r) ∧
    (∀ r, ReachedByDocument namelessField r → SameSource (fun source source' =>
      source' = source ∨ FirstField source source' ∨ FirstField source' source) r) := by
  have distinct : DistinctKeys namelessField := by decide
  have outside : OutsidePaths namelessField := by decide
  obtain ⟨names, schemas, all⟩ := unshared_of_reached distinct
  exact ⟨distinct, outside, names, schemas, all outside⟩

/-- The definition that an event offered, with its place. -/
def Event.definition? : Event → Option (String × TypeDefinition)
  | .claimed .. => none
  | .offered place _ d => some (place, d)

/-- The form and its first field claim at one place. -/
theorem shared_by_namelessField :
    let r := (outcome (everything namelessField) .start).2
    ReachedByDocument namelessField r ∧ ∃ place source d source' d', .offered place source d ∈ r.history ∧
      .offered place source' d' ∈ r.history ∧ d'.name = d.name ∧ d'.isEnum = false ∧
      d.isEnum = true ∧ r.table.get? d'.name = some d := by
  intro r
  let place := "#/paths/~1x/post/parameters/0"
  let values : TypeDefinition :=
    ⟨"UpForm", none, .enum [⟨"A", "a", none⟩, ⟨"B", "b", none⟩] false⟩
  let form : TypeDefinition :=
    ⟨"UpForm", none, .object [⟨"-", .enumeration "UpForm", false, none, none, none⟩]⟩
  have offers : r.history.filterMap Event.definition? = [(place, form), (place, values)] := by
    decide
  have offered (d : TypeDefinition) (mem : (place, d) ∈ r.history.filterMap Event.definition?) :
      ∃ source, .offered place source d ∈ r.history := by
    obtain ⟨event, event_mem, same⟩ := List.mem_filterMap.mp mem
    cases event with
    | claimed => cases same
    | offered place' source d' =>
      injection Option.some.inj same with same_place same_definition
      exact ⟨source, same_place ▸ same_definition ▸ event_mem⟩
  rw [offers] at offered
  obtain ⟨source, first⟩ := offered values (by simp)
  obtain ⟨source', second⟩ := offered form (by simp)
  have found : r.table.get? "UpForm" = some values := by decide
  refine ⟨reachedByDocument_everything namelessField, ?_⟩
  exact ⟨place, source, values, source', form, first, second, rfl, rfl, rfl, found⟩

end Api
end Scaffold

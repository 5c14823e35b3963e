/-
What the operations of a document ask of the resolver. Given that the types of schemas, the names
of forms and their definitions keep a condition, all operations keep it, and the types they mention
are as good as those of schemas: `Steady.operations`.
-/
import Scaffold.Proofs.Api.Aliases
import Scaffold.Proofs.Api.Steps

namespace Scaffold
namespace Api

open Resolve Json.Pointer

variable {document : Json}

/-! ## The schemas that are asked for -/

/-- An operation of a document with its place, and the parameters that its path shares. -/
inductive Endpoint (document : Json) : String → Json → List Json → Prop where
  | mk {path method : String} {item target op : Json}
      (item_mem : (path, item) ∈ document.membersAt "paths")
      (item_described : described document item (child "#/paths" path) = .ok target)
      (method_mem : method ∈ methods) (op_eq : target.get? method = some op) :
      Endpoint document (child (child "#/paths" path) method) op (target.itemsAt "parameters")

/-- A parameter of an operation, as it is described, with its place. -/
inductive Input (document : Json) : String → Json → Prop where
  | mk {place : String} {op value target : Json} {shared : List Json} {i : Nat}
      (endpoint : Endpoint document place op shared)
      (mem : (value, i) ∈ (shared ++ op.itemsAt "parameters").zipIdx)
      (value_described : described document value
        (child (child place "parameters") (toString i)) = .ok target) :
      Input document (child (child place "parameters") (toString i)) target

/-- The first answer that has a schema, in the order of codes. -/
inductive FirstAnswer (document : Json) (place : String) (responses : List (String × Json)) :
    List String → String → Json → Prop where
  | here {code : String} {rest : List String} {answer schema : Json}
      (answer_described : described document ((Json.lookup code responses).getD .null)
        (child place code) = .ok answer)
      (some : responseSchema? answer = some schema) :
      FirstAnswer document place responses (code :: rest) code schema
  | later {code code' : String} {rest : List String} {answer schema : Json}
      (answer_described : described document ((Json.lookup code responses).getD .null)
        (child place code) = .ok answer)
      (none : responseSchema? answer = none)
      (later : FirstAnswer document place responses rest code' schema) :
      FirstAnswer document place responses (code :: rest) code' schema

def successCodes (responses : List (String × Json)) : List String :=
  NameSet.ofList ((responses.map (·.1)).filter (Text.startsWith "2"))

def IsField (value : Json) : Prop :=
  value.strAt? "in" = some "formData"

instance (value : Json) : Decidable (IsField value) :=
  inferInstanceAs (Decidable (_ = _))

/-- The schemas whose types the operations ask for, with their places. -/
inductive OperationSchema (document : Json) : String → Json → Prop where
  /-- A parameter or a body that has a schema. -/
  | parameter {place : String} {value schema : Json} (input : Input document place value)
      (no_field : ¬IsField value) (schema_eq : value.get? "schema" = some schema) :
      OperationSchema document (child place "schema") schema
  /-- A parameter that keeps its type on itself. -/
  | bare {place : String} {value : Json} (input : Input document place value)
      (none : value.get? "schema" = none) : OperationSchema document place value
  | field {place : String} {value : Json} (input : Input document place value)
      (field : IsField value) : OperationSchema document place value
  | body {place kind : String} {op value target media schema : Json} {shared : List Json}
      (endpoint : Endpoint document place op shared) (body : op.get? "requestBody" = some value)
      (value_described : described document value (child place "requestBody") = .ok target)
      (content : pickContent (target.membersAt "content")
        [jsonContent, multipartContent, formContent] = some (kind, media))
      (schema_eq : media.get? "schema" = some schema) :
      OperationSchema document
        (child (child (child (child place "requestBody") "content") kind) "schema") schema
  | answer {place code : String} {op value schema : Json} {shared : List Json}
      {responses : List (String × Json)} (endpoint : Endpoint document place op shared)
      (responses_eq : op.get? "responses" = some value)
      (members : value.members? = some responses)
      (first : FirstAnswer document (child place "responses") responses (successCodes responses)
        code schema) :
      OperationSchema document (child (child (child place "responses") code) "schema") schema

def field? (document : Json) (place : String) (parameter : Json × Nat) : Option (Json × String) :=
  let place := child place (toString parameter.2)
  match described document parameter.1 place with
  | .ok value => if IsField value then some (value, place) else none
  | .error _ => none

/-- The form of an operation. -/
inductive OperationForm (document : Json) : List (Json × String) → Prop where
  | mk {place : String} {op : Json} {shared : List Json}
      (endpoint : Endpoint document place op shared) :
      OperationForm document ((shared ++ op.itemsAt "parameters").zipIdx.filterMap
        (field? document (child place "parameters")))

theorem field?_of_described {place : String} {parameter : Json × Nat} {value : Json}
    (h : described document parameter.1 (child place (toString parameter.2)) = .ok value) :
    field? document place parameter =
      if IsField value then some (value, child place (toString parameter.2)) else none := by
  simp only [field?, h]

theorem field?_spec {place : String} {parameter : Json × Nat} {field : Json × String}
    (h : field? document place parameter = some field) :
    field.2 = child place (toString parameter.2) ∧
      described document parameter.1 field.2 = .ok field.1 ∧ IsField field.1 := by
  unfold field? at h
  dsimp only at h
  split at h
  · next value value_described =>
    split at h
    · next is_field =>
      rw [← Option.some.inj h]
      exact ⟨rfl, value_described, is_field⟩
    · cases h
  · cases h

theorem OperationForm.input {fields : List (Json × String)} (h : OperationForm document fields)
    {field : Json × String} (mem : field ∈ fields) :
    Input document field.2 field.1 ∧ IsField field.1 := by
  obtain ⟨endpoint⟩ := h
  obtain ⟨parameter, parameter_mem, found⟩ := List.mem_filterMap.mp mem
  obtain ⟨same, value_described, is_field⟩ := field?_spec found
  rw [same] at value_described ⊢
  exact ⟨⟨endpoint, parameter_mem, value_described⟩, is_field⟩

theorem Endpoint.mem_values {place : String} {op : Json} {shared : List Json}
    (h : Endpoint document place op shared) :
    op ∈ document.values ∧ ∀ value ∈ shared, value ∈ document.values := by
  obtain ⟨item_mem, item_described, _, op_eq⟩ := h
  have item_inside :=
    Json.values_subset_of_mem_membersAt item_mem (Json.mem_values_self _)
  have inside :=
    Json.values_subset document ((described_spec item_described).mem_values item_inside)
  refine ⟨inside (Json.values_subset_of_get? op_eq (Json.mem_values_self _)), ?_⟩
  intro value h
  exact inside (Json.values_subset_of_mem_itemsAt h (Json.mem_values_self _))

theorem Input.mem_values {place : String} {value : Json} (h : Input document place value) :
    value ∈ document.values := by
  obtain ⟨endpoint, mem, value_described⟩ := h
  obtain ⟨op_inside, shared_inside⟩ := endpoint.mem_values
  refine (described_spec value_described).mem_values ?_
  rcases List.mem_append.mp (List.fst_mem_of_mem_zipIdx mem) with shared | own
  · exact shared_inside _ shared
  · exact Json.values_subset document op_inside
      (Json.values_subset_of_mem_itemsAt own (Json.mem_values_self _))

theorem Described.ref?_eq_none {value described : Json}
    (h : Described document value described) : Schema.ref? described = none := by
  induction h with
  | here ref => exact ref
  | there _ _ _ ih => exact ih

/-- What is described already describes itself. -/
theorem Described.eq_of_ref?_eq_none {value described : Json}
    (h : Described document value described) (none : Schema.ref? value = none) :
    described = value := by
  cases h with
  | here => rfl
  | there ref =>
    rw [none] at ref
    cases ref

theorem Input.ref?_eq_none {place : String} {value : Json} (h : Input document place value) :
    Schema.ref? value = none := by
  obtain ⟨_, _, value_described⟩ := h
  exact (described_spec value_described).ref?_eq_none

theorem values_subset_of_responseSchema? {response schema : Json}
    (h : responseSchema? response = some schema) : schema.values ⊆ response.values := by
  unfold responseSchema? at h
  split at h
  · next content found =>
    obtain ⟨⟨kind, media⟩, picked, schema_eq⟩ := Option.bind_eq_some_iff.mp h
    obtain ⟨_, _, found'⟩ := List.exists_of_findSome?_eq_some picked
    obtain ⟨_, media_eq, same⟩ := Option.map_eq_some_iff.mp found'
    injection same with _ same
    subst same
    exact fun _ hv => Json.values_subset_of_get? (Json.get?_of_membersAt? found)
      (Json.values_subset_of_mem_members (Json.mem_of_lookup media_eq)
        (Json.values_subset_of_get? schema_eq hv))
  · exact Json.values_subset_of_get? h

/-- The answer with a schema is one that there is. -/
theorem FirstAnswer.spec {place code : String} {responses : List (String × Json)}
    {codes : List String} {schema : Json}
    (h : FirstAnswer document place responses codes code schema) :
    ∃ response answer, Json.lookup code responses = some response ∧
      described document response (child place code) = .ok answer ∧
      responseSchema? answer = some schema := by
  induction h with
  | @here code rest answer schema answer_described some =>
    cases found : Json.lookup code responses with
    | none =>
      rw [found] at answer_described
      rw [(described_spec answer_described).eq_of_ref?_eq_none rfl] at some
      cases some
    | some response =>
      rw [found] at answer_described
      exact ⟨response, answer, rfl, answer_described, some⟩
  | later _ _ _ ih => exact ih

theorem OperationSchema.mem_values {place : String} {schema : Json}
    (h : OperationSchema document place schema) : schema ∈ document.values := by
  cases h with
  | parameter input _ schema_eq =>
    exact Json.values_subset document input.mem_values
      (Json.values_subset_of_get? schema_eq (Json.mem_values_self _))
  | bare input | field input => exact input.mem_values
  | body endpoint body value_described content schema_eq =>
    have value_inside := Json.values_subset document endpoint.mem_values.1
      (Json.values_subset_of_get? body (Json.mem_values_self _))
    obtain ⟨_, _, found⟩ := List.exists_of_findSome?_eq_some content
    obtain ⟨_, media_eq, same⟩ := Option.map_eq_some_iff.mp found
    injection same with _ same
    subst same
    have target_inside := (described_spec value_described).mem_values value_inside
    have media_inside := Json.values_subset document target_inside
      (Json.values_subset_of_mem_membersAt (Json.mem_of_lookup media_eq) (Json.mem_values_self _))
    exact Json.values_subset document media_inside
      (Json.values_subset_of_get? schema_eq (Json.mem_values_self _))
  | answer endpoint responses_eq members first =>
    have value_inside := Json.values_subset document endpoint.mem_values.1
      (Json.values_subset_of_get? responses_eq (Json.mem_values_self _))
    obtain ⟨response, answer, found, answer_described, some⟩ := first.spec
    have object := Json.eq_object_of_members? members
    have response_inside : response ∈ document.values := by
      refine Json.values_subset document value_inside ?_
      rw [object]
      exact Json.values_subset_of_mem_members (Json.mem_of_lookup found) (Json.mem_values_self _)
    have answer_inside := (described_spec answer_described).mem_values response_inside
    exact Json.values_subset document answer_inside
      (values_subset_of_responseSchema? some (Json.mem_values_self _))

/-! ## What the operations keep -/

/-- What has to be shown of the resolver so that the operations keep a condition `I`, their types
meet `T`, and their failures `E`. -/
structure Steady (document : Json) (I : Resolver → Prop) (T : TypeExpr → Resolver → Prop)
    (E : Failure → Resolver → Prop) : Prop where
  lasting : ∀ type, Lasting (T type)
  fails : ∀ {r failure}, I r → failure.cause ≠ .endless → E failure r
  schema : ∀ {schema context place}, OperationSchema document place schema →
    Ensures I E (fun _ => True) (ofSchema document schema context place) T
  claim : ∀ {r} wanted place, I r → I (r.claim wanted place)
  form : ∀ {r name} {first : Json × String} {rest} {properties : List TypedProperty},
    OperationForm document (first :: rest) → I r → r.names.get? name = some first.2 →
    (∀ p ∈ properties, T p.type r) →
    let source := .form ((first :: rest).map (·.1))
    let r' := r.offer first.2 source ⟨name, none, .object properties⟩
    I r' ∧ T (.reference name) r'

namespace Steady

variable {I : Resolver → Prop} {T : TypeExpr → Resolver → Prop} {E : Failure → Resolver → Prop}

theorem bind_described {α : Type} {P : Resolver → Prop} {Q : α → Resolver → Prop}
    (steady : Steady document I T E) {value : Json} {place : String} {f : Json → Resolve α}
    (next : ∀ w, described document value place = .ok w → Ensures I E P (f w) Q) :
    Ensures I E P (liftM (described document value place) >>= f) Q :=
  Ensures.bind_lift next fun _ h _ hI => steady.fails hI (described_ne_endless h)

theorem failAt {α : Type} {P : Resolver → Prop} {Q : α → Resolver → Prop}
    (steady : Steady document I T E) {place : String} {cause : Cause} (h : cause ≠ .endless) :
    Ensures I E P (Resolve.failAt place cause) Q :=
  .failAt fun _ hI => steady.fails hI h

theorem parameter_spec (steady : Steady document I T E) {place : String} {value : Json}
    (input : Input document place value) (context : String) :
    Ensures I E (fun _ => True) (parameter document value context place)
      fun p? r => ∀ p, p? = some p → T p.type r := by
  unfold Resolve.parameter
  refine steady.bind_described fun w h => ?_
  rw [(described_spec h).eq_of_ref?_eq_none input.ref?_eq_none]
  cases value.strAt? "name" with
  | none => exact steady.failAt (by simp)
  | some name =>
    cases carried : (value.strAt? "in").bind Location.ofName? with
    | none => exact .pure (by simp)
    | some location =>
      have no_field : ¬IsField value := by
        intro field
        rw [field] at carried
        cases carried
      have pack (type : TypeExpr) : Ensures I E (T type) (pure (some (⟨name, location, type,
          location == .path || (value.boolAt? "required").getD false,
          Schema.description? value⟩ : Parameter)))
          fun p? r => ∀ p, p? = some p → T p.type r := by
        refine .pure fun r hT p hp => ?_
        rw [← Option.some.inj hp]
        exact hT
      cases found : value.get? "schema" with
      | none => exact .bind (steady.schema (.bare input found)) pack
      | some schema => exact .bind (steady.schema (.parameter input no_field found)) pack

theorem requestBody_spec (steady : Steady document I T E) {place : String} {op value : Json}
    {shared : List Json} (endpoint : Endpoint document place op shared)
    (body : op.get? "requestBody" = some value) (context : String) :
    Ensures I E (fun _ => True)
      (requestBody document value context (child place "requestBody"))
      fun b? r => ∀ b, b? = some b → T b.type r := by
  unfold Resolve.requestBody
  refine steady.bind_described fun w h => ?_
  dsimp only
  split
  · exact .pure (by simp)
  · next kind media content =>
    split
    · exact .pure (by simp)
    · next schema schema_eq =>
      refine .bind (steady.schema (.body endpoint body h content schema_eq)) fun type => ?_
      refine .pure fun r hT b hb => ?_
      rw [← Option.some.inj hb]
      exact hT

theorem firstResponse_spec (steady : Steady document I T E) {place : String}
    {responses : List (String × Json)} {codes : List String}
    (asked : ∀ code schema, FirstAnswer document place responses codes code schema →
      OperationSchema document (child (child place code) "schema") schema) (context : String) :
    Ensures I E (fun _ => True) (firstResponse document responses context place codes)
      fun t? r => ∀ t, t? = some t → T t r := by
  induction codes with
  | nil => exact .pure (by simp)
  | cons code rest ih =>
    unfold firstResponse
    refine steady.bind_described fun w h => ?_
    split
    · next schema some =>
      refine .bind (steady.schema (asked _ _ (.here h some))) fun type => ?_
      refine .pure fun r hT t ht => ?_
      rw [← Option.some.inj ht]
      exact hT
    · next none => exact ih fun code schema first => asked code schema (.later h none first)

theorem response_spec (steady : Steady document I T E) {place : String} {op value : Json}
    {shared : List Json} (endpoint : Endpoint document place op shared)
    (responses : op.get? "responses" = some value) (context : String) :
    Ensures I E (fun _ => True) (response document value context (child place "responses"))
      fun t? r => ∀ t, t? = some t → T t r := by
  unfold Resolve.response
  split
  · exact .pure (by simp)
  · next members found =>
    exact steady.firstResponse_spec
      (fun _ _ first => .answer endpoint responses found first) context

/-! ## Forms -/

/-- What the parameters of an operation gave is good, and the given ones among them are fields. -/
structure GoodInputs (T : TypeExpr → Resolver → Prop) (fields : List (Json × String))
    (inputs : Inputs) (r : Resolver) : Prop where
  parameters : ∀ p ∈ inputs.parameters, T p.type r
  body : ∀ b, inputs.body = some b → T b.type r
  fields : inputs.fields.reverse = fields

theorem goodInputs_lasting (steady : Steady document I T E) (fields : List (Json × String))
    (inputs : Inputs) : Lasting (GoodInputs T fields inputs) :=
  fun _ _ grows h => ⟨fun p hp => steady.lasting _ grows (h.parameters p hp),
    fun b hb => steady.lasting _ grows (h.body b hb), h.fields⟩

/-- Of a parameter that is none, no field comes. -/
theorem GoodInputs.no_field {place : String} {parameter : Json × Nat} {value : Json}
    {fields : List (Json × String)} {inputs : Inputs} {r : Resolver}
    (good : GoodInputs T fields inputs r)
    (h : described document parameter.1 (child place (toString parameter.2)) = .ok value)
    (no_field : ¬IsField value) :
    inputs.fields.reverse = fields ++ (field? document place parameter).toList := by
  rw [good.fields, field?_of_described h, if_neg no_field, Option.toList_none, List.append_nil]

theorem input_spec (steady : Steady document I T E) {place : String} {op : Json}
    {shared : List Json} {parameter : Json × Nat} (endpoint : Endpoint document place op shared)
    (mem : parameter ∈ (shared ++ op.itemsAt "parameters").zipIdx)
    (fields : List (Json × String)) (inputs : Inputs) (context : String) :
    let parameters := child place "parameters"
    Ensures I E (GoodInputs T fields inputs)
      (input document context (child parameters (toString parameter.2)) inputs parameter.1)
      (GoodInputs T (fields ++ (field? document parameters parameter).toList)) := by
  intro parameters
  unfold Resolve.input
  refine steady.bind_described fun w h => ?_
  have input : Input document _ w := ⟨endpoint, mem, h⟩
  have lasting := steady.goodInputs_lasting fields inputs
  split
  · next in_body =>
    have no_field : ¬IsField w := by
      intro field
      rw [field] at in_body
      exact absurd in_body (by decide)
    split
    · exact .pure fun _ good => ⟨good.parameters, good.body, good.no_field h no_field⟩
    · next schema schema_eq =>
      refine .bind (.alone (steady.schema (.parameter input no_field schema_eq)) lasting)
        fun type => ?_
      refine .pure fun r ⟨hT, good⟩ =>
        ⟨good.parameters, fun b hb => ?_, good.no_field h no_field⟩
      rw [← Option.some.inj hb]
      exact hT
  · next in_form =>
    have field : IsField w := in_form
    refine .pure fun r good => ⟨good.parameters, good.body, ?_⟩
    rw [field?_of_described h, if_pos field, List.reverse_cons, good.fields, Option.toList_some]
  · next no_field =>
    refine .bind (.alone (steady.parameter_spec input context) lasting) fun p? => ?_
    cases p? with
    | none =>
      exact .pure fun r ⟨_, good⟩ => ⟨good.parameters, good.body, good.no_field h no_field⟩
    | some p =>
      refine .pure fun r ⟨hT, good⟩ => ⟨?_, good.body, good.no_field h no_field⟩
      intro q hq
      rcases List.mem_append.mp hq with old | new
      · exact good.parameters q (List.mem_of_mem_filter old)
      · rw [List.mem_singleton.mp new]
        exact hT p rfl

theorem formField_spec (steady : Steady document I T E) {field : Json × String}
    (good : Input document field.2 field.1 ∧ IsField field.1) (owner : String) :
    Ensures I E (fun _ => True) (formField document owner field) fun p r => T p.type r := by
  obtain ⟨value, place⟩ := field
  unfold formField
  dsimp only
  cases value.strAt? "name" with
  | none => exact steady.failAt (by simp)
  | some name =>
    exact .bind (steady.schema (.field good.1 good.2)) fun type => .pure fun _ hT => hT

theorem formBody_spec (steady : Steady document I T E) {first : Json × String}
    {rest : List (Json × String)} (form : OperationForm document (first :: rest))
    (context : String) :
    Ensures I E (fun _ => True) (formBody document context first rest)
      fun b r => T b.type r := by
  have owned_lasting (name : String) : Lasting fun r => r.names.get? name = some first.2 :=
    fun r r' grows owned => grows.names name first.2 owned
  have named : Ensures I E (fun _ => True) (claimName (context ++ "Form") first.2)
      fun name r => r.names.get? name = some first.2 := by
    intro r hI _
    exact ⟨steady.claim _ _ hI, .claim .., Resolver.get?_claim ..⟩
  refine .bind named fun name => ?_
  have fields : Ensures I E (fun r => r.names.get? name = some first.2)
      ((first :: rest).mapM (formField document name))
      fun ps r => (∀ p ∈ ps, T p.type r) ∧ r.names.get? name = some first.2 := by
    refine Ensures.mapM (owned_lasting name) (fun p => steady.lasting p.type) fun f hf => ?_
    exact (steady.formField_spec (form.input hf) name).mono (fun _ _ => trivial) fun _ _ h => h
  refine .bind fields fun properties => ?_
  have defined : Ensures I E
      (fun r => (∀ p ∈ properties, T p.type r) ∧ r.names.get? name = some first.2)
      (define first.2 (.form ((first :: rest).map (·.1))) ⟨name, none, .object properties⟩)
      fun _ r => T (.reference name) r := by
    intro r hI ⟨hT, owned⟩
    obtain ⟨hI', hT'⟩ := steady.form form hI owned hT
    exact ⟨hI', .offer .., hT'⟩
  exact .bind defined fun _ => .pure fun _ hT => hT

/-! ## Whole operations -/

/-- Going through parameters adds the fields among them to those there were. -/
theorem inputs_spec (steady : Steady document I T E) {place : String} {op : Json}
    {shared : List Json} {parameters : List (Json × Nat)}
    (endpoint : Endpoint document place op shared)
    (inside : parameters ⊆ (shared ++ op.itemsAt "parameters").zipIdx)
    (fields : List (Json × String)) (inputs : Inputs) (context : String) :
    Ensures I E (GoodInputs T fields inputs)
      (parameters.foldlM (fun inputs (value, i) =>
        input document context (child (child place "parameters") (toString i)) inputs value) inputs)
      (GoodInputs T (fields ++ parameters.filterMap (field? document (child place "parameters")))) := by
  induction parameters generalizing fields inputs with
  | nil =>
    rw [List.filterMap_nil, List.append_nil]
    exact .pure fun _ good => good
  | cons parameter rest ih =>
    obtain ⟨mem, rest_inside⟩ := List.cons_subset.mp inside
    rw [List.foldlM_cons]
    refine .bind (steady.input_spec endpoint mem fields inputs context) fun inputs' => ?_
    have cons_eq : (parameter :: rest).filterMap (field? document (child place "parameters")) =
        (field? document (child place "parameters") parameter).toList ++
          rest.filterMap (field? document (child place "parameters")) := by
      rw [List.filterMap_cons]
      cases field? document (child place "parameters") parameter <;> rfl
    rw [cons_eq, ← List.append_assoc]
    exact ih rest_inside _ inputs'

theorem operationBody_spec (steady : Steady document I T E) {place : String} {op : Json}
    {shared : List Json} {fields : List (Json × String)}
    (endpoint : Endpoint document place op shared) (form : OperationForm document fields)
    (inputs : Inputs) (context : String) :
    Ensures I E (GoodInputs T fields inputs) (operationBody document op inputs context place)
      fun b? r => (∀ b, b? = some b → T b.type r) ∧ GoodInputs T fields inputs r := by
  have lasting := steady.goodInputs_lasting fields inputs
  unfold operationBody
  split
  · next value rest body =>
    exact .alone (steady.requestBody_spec endpoint body context) lasting
  · next first rest _ same =>
    intro r hI good
    rw [← good.fields, same] at form
    have body := steady.formBody_spec form context
    refine Ensures.alone (.map (body.mono (fun _ h => h) fun b r hT b' hb => ?_)) lasting r hI good
    rw [← Option.some.inj hb]
    exact hT
  · exact .pure fun r good => ⟨good.body, good⟩

theorem operationResponse_spec (steady : Steady document I T E) {place : String} {op : Json}
    {shared : List Json} (endpoint : Endpoint document place op shared) (context : String) :
    Ensures I E (fun _ => True) (operationResponse document op context place)
      fun t? r => ∀ t, t? = some t → T t r := by
  unfold operationResponse
  split
  · next value responses => exact steady.response_spec endpoint responses context
  · exact .pure (by simp)

theorem operation_spec (steady : Steady document I T E) {place : String} {op : Json}
    {shared : List Json} (endpoint : Endpoint document place op shared) (path method : String) :
    Ensures I E (fun _ => True) (operation document path method op shared place)
      fun o r => ∀ t ∈ o.signatureTypes, T t r := by
  unfold Resolve.operation
  let fields := (shared ++ op.itemsAt "parameters").zipIdx.filterMap
    (field? document (child place "parameters"))
  refine .bind ((steady.inputs_spec endpoint (List.Subset.refl _) [] _ _).mono
    (fun _ _ => ⟨by simp, by simp, rfl⟩) fun _ _ h => h) fun inputs => ?_
  refine .bind (steady.operationBody_spec endpoint (.mk endpoint) inputs _) fun body => ?_
  have body_lasting : Lasting fun r => ∀ b, body = some b → T b.type r :=
    .forall fun b => .implies (steady.lasting b.type)
  have lasting := body_lasting.and (steady.goodInputs_lasting fields inputs)
  refine .bind (.alone (steady.operationResponse_spec endpoint _) lasting) fun answer => ?_
  refine .pure fun r ⟨answer_good, body_good, good⟩ t ht => ?_
  rcases List.mem_append.mp ht with ht | ht
  · rcases List.mem_append.mp ht with ht | ht
    · obtain ⟨p, hp, rfl⟩ := List.mem_map.mp ht
      exact good.parameters p hp
    · obtain ⟨b, hb, rfl⟩ := Option.map_eq_some_iff.mp (Option.mem_toList.mp ht)
      exact body_good b hb
  · exact answer_good t (Option.mem_toList.mp ht)

theorem pathOperations_spec (steady : Steady document I T E) {path : String} {item : Json}
    (mem : (path, item) ∈ document.membersAt "paths") :
    Ensures I E (fun _ => True) (pathOperations document path item)
      fun os r => ∀ o ∈ os, ∀ t ∈ o.signatureTypes, T t r := by
  unfold pathOperations
  refine steady.bind_described fun described h => ?_
  refine (Ensures.filterMapM (.const True)
    (fun o => .forall fun t => .implies (steady.lasting t)) fun method method_mem => ?_).mono
    (fun _ h => h) fun os r good => good.1
  split
  · exact .pure (by simp)
  · next op found =>
    refine .map ((steady.operation_spec (.mk mem h method_mem found) path method).mono
      (fun _ h => h) fun o r good o' ho => ?_)
    rw [← Option.some.inj ho]
    exact good

/-- All operations keep the condition, and every type they mention is good. -/
theorem operations_spec (steady : Steady document I T E) :
    Ensures I E (fun _ => True) (operations document)
      fun os r => ∀ o ∈ os, ∀ t ∈ o.signatureTypes, T t r := by
  unfold Resolve.operations
  have lists : Ensures I E (fun _ => True) ((document.membersAt "paths").mapM
      fun entry => pathOperations document entry.1 entry.2)
      fun lists r => (∀ os ∈ lists, ∀ o ∈ os, ∀ t ∈ o.signatureTypes, T t r) ∧ True :=
    .mapM (.const True)
      (fun os => .forall fun o => .implies (.forall fun t => .implies (steady.lasting t)))
      fun entry mem => steady.pathOperations_spec mem
  refine .bind lists fun lists => .pure fun r ⟨good, _⟩ o ho => ?_
  obtain ⟨os, hos, ho⟩ := List.mem_flatten.mp ho
  exact good os hos o ho

end Steady

/-! ## Documents -/

/-- A document cannot be loaded if it is no object or if resolving fails. -/
theorem outcome_of_load_error {path : String} {failure : Failure}
    (failed : load document path = .error failure) :
    failure.cause = .notAnObject ∨
      ∃ failure', (outcome (everything document) .start).1 = .error failure' ∧
        failure.cause = failure'.cause := by
  unfold load at failed
  split at failed
  · split at failed
    · cases failed
    · next failure' r run =>
      rw [← Except.error.inj failed]
      exact .inr ⟨failure', congrArg Prod.fst run, rfl⟩
  · rw [← Except.error.inj failed]
    exact .inl rfl

theorem outcome_of_load {path : String} {d : Document} (loaded : load document path = .ok d) :
    ∃ r, outcome (everything document) .start = (.ok d.operations, r) ∧ d.types = r.table := by
  unfold load at loaded
  split at loaded
  · split at loaded
    · next ops r run =>
      rw [← Except.ok.inj loaded]
      exact ⟨r, run, rfl⟩
    · cases loaded
  · cases loaded

end Api
end Scaffold

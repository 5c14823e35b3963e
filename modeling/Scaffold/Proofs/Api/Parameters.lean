/-
The parameters of an operation (`Resolve.operation_parameters`): of those with one name and location, on
the path or on the operation itself, the last stands for all.
-/
import Scaffold.Proofs.Api.Listing
import Scaffold.Proofs.Api.Operations
import Scaffold.Proofs.Failing
import Scaffold.Proofs.Keyed

namespace Scaffold
namespace Api

open Resolve Json.Pointer

/-- What parameters of one operation are told apart by. -/
def Parameter.key (p : Parameter) : String × Location :=
  (p.name, p.location)

namespace Resolve

/-- The name and the location of a described value, if it is a parameter in a location that is carried. -/
def keyOf? (value : Json) : Option (String × Location) :=
  (value.strAt? "name").bind fun name =>
    ((value.strAt? "in").bind Location.ofName?).map fun location => (name, location)

/-- A parameter as it is described, with its position among those of the path and the operation. -/
structure Occurrence where
  position : Nat
  value : Json
  key : String × Location

variable (document : Json)

def occurrence? (place : String) (parameter : Json × Nat) : Option Occurrence :=
  match described document parameter.1 (child place (toString parameter.2)) with
  | .ok value => (keyOf? value).map fun key => ⟨parameter.2, value, key⟩
  | .error _ => none

/-- Where parameters occur in a list, references followed. -/
def occurrences (place : String) (parameters : List Json) : List Occurrence :=
  parameters.zipIdx.filterMap (occurrence? document place)

/-- Takes parameters in, one after the other. -/
def takeIn (context place : String) (parameters : List Json) : Resolve Inputs :=
  parameters.zipIdx.foldlM (fun inputs (value, i) =>
    input document context (child place (toString i)) inputs value) ⟨[], none, []⟩

/-- The parameter that an occurrence stands for, once those before it are taken in. -/
def TakenFrom (context place : String) (parameters : List Json) (r : Resolver) (o : Occurrence)
    (p : Parameter) : Prop :=
  ∃ inputs before after,
    outcome (takeIn document context place (parameters.take o.position)) r = (.ok inputs, before) ∧
    outcome (parameter document o.value context (child place (toString o.position))) before =
      (.ok (some p), after) ∧
    p.key = o.key

variable {document} {context place : String} {value w : Json} {r r' : Resolver}

/-! ## Steps that give something -/

theorem exists_run {α : Type} {x : Resolve α} {a : α} (given : (outcome x r).1.toOption = some a) :
    ∃ r', outcome x r = (.ok a, r') :=
  ⟨_, Prod.ext (toOption_eq_some_iff.mp given) rfl⟩

/-- A sequence gives something if its first step does, and the rest from there. -/
theorem of_bind_eq_ok {α β : Type} {x : Resolve α} {f : α → Resolve β} {b : β}
    (gives : outcome (x >>= f) r = (.ok b, r')) :
    ∃ a middle, outcome x r = (.ok a, middle) ∧ outcome (f a) middle = (.ok b, r') := by
  rw [outcome_bind] at gives
  rcases first : outcome x r with ⟨failure | a, middle⟩
  · rw [first] at gives
    cases gives
  · rw [first] at gives
    exact ⟨a, middle, rfl, gives⟩

theorem eq_of_pure_eq_ok {α : Type} {a b : α} (gives : outcome (pure a) r = (.ok b, r')) :
    b = a ∧ r' = r := by
  rw [outcome_pure, Prod.mk.injEq] at gives
  exact ⟨(Except.ok.inj gives.1).symm, gives.2.symm⟩

/-! ## One parameter -/

theorem location_body : Location.ofName? "body" = none := by decide

theorem location_form : Location.ofName? "formData" = none := by decide

/-- A described value gives a parameter exactly if it has a name and a location. -/
theorem key_of_parameter {p? : Option Parameter} (own : Schema.ref? value = none)
    (gives : outcome (parameter document value context place) r = (.ok p?, r')) :
    p?.map (·.key) = keyOf? value ∧ ∀ p, p? = some p → p.location = .path → p.isRequired = true := by
  simp only [parameter, outcome_bind, outcome_lift, described_self own, andThen_ok] at gives
  unfold keyOf?
  cases named : value.strAt? "name" with
  | none => simp [named] at gives
  | some name =>
    cases located : (value.strAt? "in").bind Location.ofName? with
    | none =>
      simp only [named, located] at gives
      obtain ⟨rfl, -⟩ := eq_of_pure_eq_ok gives
      simp
    | some location =>
      simp only [named, located] at gives
      obtain ⟨type, given⟩ : ∃ type, p? = some ⟨name, location, type,
          location == .path || (value.boolAt? "required").getD false, Schema.description? value⟩ := by
        split at gives
        all_goals
          obtain ⟨type, middle, -, packed⟩ := of_bind_eq_ok gives
          exact ⟨type, (eq_of_pure_eq_ok packed).1⟩
      subst given
      refine ⟨rfl, fun p same on_path => ?_⟩
      obtain rfl := Option.some.inj same
      simp [show location = .path from on_path]

theorem key_beq (p q : Parameter) : (p.key == q.key) = (p.name == q.name && p.location == q.location) := by
  rw [Bool.eq_iff_iff]
  simp [Parameter.key]

theorem putParameter_eq (p : Parameter) (parameters : List Parameter) :
    putParameter p parameters = parameters.filter (·.key != p.key) ++ [p] := by
  simp only [putParameter, bne, key_beq]

/-- One parameter is taken in for what it is described as: into the list if it has a name and a location, or
else elsewhere. -/
theorem input_gives {inputs inputs' : Inputs}
    (gives : outcome (input document context place inputs value) r = (.ok inputs', r')) :
    ∃ w, described document value place = .ok w ∧
      match keyOf? w with
      | none => inputs'.parameters = inputs.parameters
      | some key => ∃ p, outcome (parameter document w context place) r = (.ok (some p), r') ∧
          p.key = key ∧ inputs'.parameters = putParameter p inputs.parameters := by
  obtain ⟨w, middle, described_eq, taken⟩ := of_bind_eq_ok gives
  rw [outcome_lift, Prod.mk.injEq] at described_eq
  obtain ⟨described_eq, rfl⟩ := described_eq
  refine ⟨w, described_eq, ?_⟩
  split at taken
  · next in_body =>
    have elsewhere : keyOf? w = none := by simp [keyOf?, in_body, location_body]
    rw [elsewhere]
    split at taken
    · rw [(eq_of_pure_eq_ok taken).1]
    · obtain ⟨type, _, -, packed⟩ := of_bind_eq_ok taken
      rw [(eq_of_pure_eq_ok packed).1]
  · next in_form =>
    have elsewhere : keyOf? w = none := by simp [keyOf?, in_form, location_form]
    rw [elsewhere, (eq_of_pure_eq_ok taken).1]
  · obtain ⟨p?, last, given, packed⟩ := of_bind_eq_ok taken
    have key_eq := (key_of_parameter (described_spec described_eq).ref?_eq_none given).1
    rw [← key_eq]
    cases p? with
    | none => rw [(eq_of_pure_eq_ok packed).1]; rfl
    | some p =>
      obtain ⟨rfl, rfl⟩ := eq_of_pure_eq_ok packed
      exact ⟨p, given, rfl, rfl⟩

/-! ## All parameters -/

theorem occurrence?_spec {parameter : Json × Nat} {o : Occurrence}
    (found : occurrence? document place parameter = some o) :
    o.position = parameter.2 ∧ Schema.ref? o.value = none := by
  unfold occurrence? at found
  split at found
  · next w described_eq =>
    obtain ⟨key, -, rfl⟩ := Option.map_eq_some_iff.mp found
    exact ⟨rfl, (described_spec described_eq).ref?_eq_none⟩
  · cases found

theorem ref?_of_mem_occurrences {parameters : List Json} {o : Occurrence}
    (mem : o ∈ occurrences document place parameters) : Schema.ref? o.value = none := by
  obtain ⟨parameter, -, found⟩ := List.mem_filterMap.mp mem
  exact (occurrence?_spec found).2

theorem occurrences_concat (parameters : List Json) (value : Json) :
    occurrences document place (parameters ++ [value]) =
      occurrences document place parameters ++
        (occurrence? document place (value, parameters.length)).toList := by
  rw [occurrences, List.zipIdx_append, List.filterMap_append, occurrences, List.zipIdx_singleton, Nat.zero_add,
    List.filterMap_cons]
  cases occurrence? document place (value, parameters.length) <;> rfl

theorem takeIn_concat (parameters : List Json) (value : Json) :
    takeIn document context place (parameters ++ [value]) =
      takeIn document context place parameters >>= fun inputs =>
        input document context (child place (toString parameters.length)) inputs value := by
  rw [takeIn, List.zipIdx_append, List.foldlM_append, List.zipIdx_singleton, Nat.zero_add]
  simp [takeIn]

variable (document context place) in
/-- What taking in parameters comes to. -/
structure TakenIn (parameters : List Json) (r : Resolver) (inputs : Inputs) : Prop where
  described : ∀ parameter ∈ parameters.zipIdx,
    ∃ w, described document parameter.1 (child place (toString parameter.2)) = .ok w
  taken : List.Forall₂
    (fun o p => o.position < parameters.length ∧ TakenFrom document context place parameters r o p)
    (finals (·.key) (occurrences document place parameters)) inputs.parameters

theorem TakenFrom.concat {parameters : List Json} {o : Occurrence} {p : Parameter} (value : Json)
    (inside : o.position < parameters.length) (taken : TakenFrom document context place parameters r o p) :
    TakenFrom document context place (parameters ++ [value]) r o p := by
  rw [TakenFrom, List.take_append_of_le_length (Nat.le_of_lt inside)]
  exact taken

/-- One more parameter drops the one it overrides, and comes last. -/
theorem takenIn_of_takeIn {parameters : List Json} {inputs : Inputs}
    (gives : outcome (takeIn document context place parameters) r = (.ok inputs, r')) :
    TakenIn document context place parameters r inputs := by
  induction parameters using List.reverseRecOn generalizing inputs r' with
  | nil =>
    obtain ⟨rfl, -⟩ := eq_of_pure_eq_ok gives
    exact ⟨by simp, .nil⟩
  | append_singleton parameters value ih =>
    rw [takeIn_concat] at gives
    obtain ⟨inputs₀, before, first, last⟩ := of_bind_eq_ok gives
    obtain ⟨described_before, taken_before⟩ := ih first
    obtain ⟨w, described_eq, change⟩ := input_gives last
    have described_all : ∀ parameter ∈ (parameters ++ [value]).zipIdx,
        ∃ w, described document parameter.1 (child place (toString parameter.2)) = .ok w := by
      simp only [List.zipIdx_append, List.zipIdx_singleton, Nat.zero_add, List.forall_mem_append,
        List.forall_mem_singleton]
      exact ⟨described_before, w, described_eq⟩
    have longer : parameters.length ≤ (parameters ++ [value]).length := by simp
    have kept := taken_before.imp fun o p ⟨inside, taken⟩ =>
      And.intro (Nat.lt_of_lt_of_le inside longer) (TakenFrom.concat value inside taken)
    refine ⟨described_all, ?_⟩
    have occurs : occurrence? document place (value, parameters.length) =
        (keyOf? w).map fun key => ⟨parameters.length, w, key⟩ := by
      simp only [occurrence?, described_eq]
    rw [occurrences_concat, occurs]
    cases found : keyOf? w with
    | none =>
      rw [found] at change
      rw [change, Option.map_none, Option.toList_none, List.append_nil]
      exact kept
    | some key =>
      rw [found] at change
      obtain ⟨p, given, same, parameters_eq⟩ := change
      rw [parameters_eq, putParameter_eq, Option.map_some, Option.toList_some, finals_concat, same]
      refine List.rel_append (List.rel_filter ?_ kept) (.cons ⟨by simp, ?_⟩ .nil)
      · rintro o q ⟨-, _, _, _, -, -, keys⟩
        simp [keys]
      · refine ⟨inputs₀, before, r', ?_, given, same⟩
        rw [List.take_left]
        exact first

/-- The parameters of an operation are what the last parameters of each name and location give, in their
order; a parameter in the path is required. -/
theorem operation_parameters {path method : String} {op : Json} {shared : List Json} {o : Operation}
    (gives : outcome (operation document path method op shared place) r = (.ok o, r')) :
    let parameters := shared ++ op.itemsAt "parameters"
    let inside := child place "parameters"
    let context := Text.pascalCase (operationMethodName (op.strAt? "operationId") method path)
    (∀ parameter ∈ parameters.zipIdx,
        ∃ w, described document parameter.1 (child inside (toString parameter.2)) = .ok w) ∧
      (o.parameters.map (·.key)).Nodup ∧
      (∀ key, key ∈ o.parameters.map (·.key) ↔
        ∃ occurrence ∈ occurrences document inside parameters, occurrence.key = key) ∧
      List.Forall₂ (TakenFrom document context inside parameters r)
        (finals (·.key) (occurrences document inside parameters)) o.parameters ∧
      ∀ p ∈ o.parameters, p.location = .path → p.isRequired = true := by
  intro parameters inside context
  obtain ⟨inputs, _, first, gives⟩ := of_bind_eq_ok gives
  obtain ⟨body, _, -, gives⟩ := of_bind_eq_ok gives
  obtain ⟨response, _, -, gives⟩ := of_bind_eq_ok gives
  obtain ⟨rfl, -⟩ := eq_of_pure_eq_ok gives
  have taken_in : TakenIn document context inside parameters r inputs := takenIn_of_takeIn first
  obtain ⟨described_all, taken⟩ := taken_in
  have keys : (finals (·.key) (occurrences document inside parameters)).map (·.key) =
      inputs.parameters.map (·.key) :=
    map_eq_map taken fun o p ⟨_, _, _, _, _, _, same⟩ => same.symm
  refine ⟨described_all, ?_, fun key => ?_, taken.imp fun _ _ => And.right, fun p mem on_path => ?_⟩
  · rw [← keys]
    exact nodup_finals _ _
  · rw [← keys, mem_keys_finals, List.mem_map]
  · obtain ⟨o, o_mem, -, _, _, _, -, given, -⟩ := exists_of_mem_right taken mem
    have own := ref?_of_mem_occurrences ((finals_sublist _ _).subset o_mem)
    exact (key_of_parameter own given).2 p rfl on_path

/-- A parameter called `limit`. -/
def limit (location type : String) : Json :=
  .object [("name", .string "limit"), ("in", .string location), ("schema", typeNamed type)]

/-- A document that shares a limit of pages. -/
def pagedPets : Json :=
  .object [("parameters", .object [("Limit", limit "query" "integer")])]

/-- What all operations on a path of pets share. -/
def sharedParameters : List Json :=
  [limit "query" "string",
    .object [("name", .string "id"), ("in", .string "path"), ("schema", typeNamed "string")],
    .object [("name", .string "session"), ("in", .string "cookie")]]

/-- An operation with the shared limit in place of that of its path, and one more in a header. -/
def listFriends : Json :=
  .object [("parameters", .array [.object [("$ref", .string "#/parameters/Limit")],
    limit "header" "boolean"])]

/-- The limit of the operation overrides that of the path, the one in the header does not. -/
theorem operation_parameters_listFriends :
    ∃ o r', outcome (operation pagedPets "/pets/\x7bid\x7d/friends" "get" listFriends sharedParameters
        "#/paths/~1pets~1\x7bid\x7d~1friends/get") .start = (.ok o, r') ∧
      o.parameters.map (fun p => (p.name, p.location, p.type)) =
        [("id", .path, .named "string"), ("limit", .query, .named "int"),
          ("limit", .header, .named "bool")] ∧
      (o.parameters.map (·.key)).Nodup ∧ ∀ p ∈ o.parameters, p.location = .path → p.isRequired = true := by
  have computed : (outcome (operation pagedPets "/pets/\x7bid\x7d/friends" "get" listFriends sharedParameters
        "#/paths/~1pets~1\x7bid\x7d~1friends/get") .start).1.toOption.map
          (fun o => o.parameters.map fun p => (p.name, p.location, p.type)) =
      some [("id", .path, .named "string"), ("limit", .query, .named "int"),
        ("limit", .header, .named "bool")] := by
    decide
  obtain ⟨o, ok, parameters⟩ := Option.map_eq_some_iff.mp computed
  obtain ⟨r', run⟩ := exists_run ok
  obtain ⟨-, distinct, -, -, required⟩ := operation_parameters run
  exact ⟨o, r', run, parameters, distinct, required⟩

end Resolve
end Api
end Scaffold

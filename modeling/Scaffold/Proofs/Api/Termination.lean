/-
Resolving the named schemas and the operations of a document comes to an end, however references
form cycles, if no inline merge leads back to itself: the bound on the nesting of calls, which is
computed from the size of the document, is never met, and a greater one changes nothing.
-/
import Scaffold.Proofs.Api.Ending

namespace Scaffold
namespace Api

open Resolver Resolve Json.Pointer

variable {document : Json}

/-- Between calls from outside nothing is in progress. -/
def Idle (r : Resolver) : Prop :=
  r.inProgress = []

/-! ## The bound suffices -/

variable (document) in
theorem referenceNeed_le (first : String) (r : Resolver) :
    referenceNeed document first r ≤ (document.size + 1) * referenceCost document := by
  refine Nat.mul_le_mul_right _ (Nat.le_trans (unused_le _ _) ?_)
  exact Nat.succ_le_succ length_textsOf_le

variable (document) in
theorem bound_suffices : (document.size + 1) * referenceCost document +
    document.size * mergeCost document + 3 * document.size + 2 ≤ nestingBound document := by
  have square : 4 * (document.size + 3) ^ 4 =
      (document.size + 1) * ((document.size + 2) * (document.size + 3) ^ 2) +
        document.size * (document.size + 3) ^ 2 + 3 * document.size + 2 +
        (3 * document.size ^ 4 + 38 * document.size ^ 3 + 181 * document.size ^ 2 +
          381 * document.size + 304) := by
    ring
  unfold nestingBound referenceCost mergeCost
  rw [Nat.pow_eq, square]
  exact Nat.le_add_right _ _

theorem enough_reference {zone : Zone document} {n : Nat} {reference place : String} {r : Resolver}
    (asked : zone.asked reference) (le : nestingBound document ≤ n) :
    (Call.reference reference place).Enough zone reference n r := by
  refine ⟨asked, List.mem_cons_self, ?_⟩
  have := referenceNeed_le document reference r
  have := bound_suffices document
  omega

theorem enough_schema {zone : Zone document} {n : Nat} {schema : Json} {context place : String}
    {r : Resolver} (inside : schema ∈ document.values) (met : zone.met schema)
    (le : nestingBound document ≤ n) :
    (Call.schema schema context place).Enough zone "" n r := by
  refine ⟨inside, met, ?_⟩
  have := referenceNeed_le document "" r
  have := bound_suffices document
  have := Json.size_le_of_mem_values document inside
  have := Nat.mul_le_mul_right (mergeCost document)
    (mergesFrom_le_size document (· = schema))
  unfold schemaNeed mergesBelow
  omega

/-- Breaking off is the one failure that is excluded. -/
def NotEndless (failure : Failure) (_ : Resolver) : Prop :=
  failure.cause ≠ .endless

/-- A call from outside that has enough ends. -/
theorem ensures_enough (zone : Zone document) {first : String} {n : Nat} {c : Call}
    (enough : ∀ r, c.Enough zone first n r) :
    Ensures Idle NotEndless (fun _ => True) (c.compute document n) fun _ _ => True := by
  intro r idle _
  have run := Run.run_compute document n c r
  have complete := run_ends zone run (enough r)
  generalize outcome (c.compute document n) r = o at run complete ⊢
  obtain ⟨failure | a, r'⟩ := o
  · exact complete failure rfl
  · exact ⟨(run_inProgress run).trans idle, run_grows run, trivial⟩

theorem steady_idle (guarded : Guarded document) :
    Steady document Idle (fun _ _ => True) NotEndless where
  lasting _ := .const True
  fails _ h := h
  schema asked := ensures_enough guarded.zone fun _ =>
    enough_schema asked.mem_values (Met.operation asked) (Nat.le_refl _)
  claim _ _ idle := idle
  form _ idle _ _ := ⟨idle, trivial⟩

theorem ensures_allNamed_ends (guarded : Guarded document) :
    Ensures Idle NotEndless (fun _ => True) (allNamed document) fun _ _ => True :=
  ensures_allNamed fun {name _} mem => ensures_enough guarded.zone
    (c := .reference (child (schemasPrefix document) name) (schemasPrefix document))
    fun _ => enough_reference (Asked.named mem) (Nat.le_refl _)

/-- A greater bound on the nesting gives the same. -/
theorem outcome_deeper (zone : Zone document) {first : String} {n : Nat} {c : Call}
    {r : Resolver} (enough : c.Enough zone first (nestingBound document) r)
    (le : nestingBound document ≤ n) :
    outcome (c.compute document n) r = outcome (c.compute document (nestingBound document)) r :=
  Run.outcome_compute_of_le (run_ends zone (Run.run_compute document _ c r) enough) le

/-- Resolving the named schemas and loading a document come to an end within the bound that is
computed from the document: no call breaks off, and with a greater bound the calls for named
schemas and for the schemas of operations give the same. -/
theorem resolving_ends (guarded : Guarded document) :
    (∀ r, Idle r → Run.Complete (outcome (allNamed document) r).1) ∧
    (∀ path, Run.Complete (load document path)) ∧
    ∀ n, nestingBound document ≤ n → ∀ r,
      (∀ name schema, (name, schema) ∈ namedSchemas document →
        outcome (resolveRef document n (child (schemasPrefix document) name)
          (schemasPrefix document)) r = outcome (ofName document name) r) ∧
      ∀ place schema, OperationSchema document place schema → ∀ context,
        outcome (schemaType document n schema context place) r =
          outcome (ofSchema document schema context place) r := by
  refine ⟨fun r idle failure failed => ?_, fun path failure failed => ?_, fun n le r => ⟨?_, ?_⟩⟩
  · have ends := ensures_allNamed_ends guarded r idle trivial
    generalize outcome (allNamed document) r = o at ends failed
    obtain ⟨o, r'⟩ := o
    subst failed
    exact ends
  · rcases outcome_of_load_error failed with same | ⟨failure', failed', same⟩
    · simp [same]
    · have ends := Ensures.bind (ensures_allNamed_ends guarded)
        (fun _ => (steady_idle guarded).operations_spec) .start rfl trivial
      rw [everything] at failed'
      generalize outcome (allNamed document >>= fun _ => operations document) .start = o
        at ends failed'
      obtain ⟨o, r'⟩ := o
      subst failed'
      rw [same]
      exact ends
  · intro name schema mem
    exact outcome_deeper guarded.zone (enough_reference (Asked.named mem) (Nat.le_refl _)) le
  · intro place schema asked context
    exact outcome_deeper guarded.zone
      (enough_schema asked.mem_values (Met.operation asked) (Nat.le_refl _)) le

/-! ## A guarded document -/

/-- An object with a text. -/
def textLeaf : Json :=
  .object [("properties", .object [("text", .object [("type", .string "string")])])]

/-- A merge of a reference and an inline part. -/
def leafPair : Json :=
  .object [("allOf", .array [.object [("$ref", .string "#/definitions/Leaf")],
    .object [("properties", .object [("size", .object [("type", .string "integer")])])]])]

/-- An object that refers to itself and has an inline merge. -/
def pairedTree : Json :=
  .object [("swagger", .string "2.0"), ("definitions", .object [
    ("Node", .object [("properties", .object [
      ("next", .object [("$ref", .string "#/definitions/Node")]), ("pair", leafPair)])]),
    ("Leaf", textLeaf)])]

/-- The properties that the merge gathers are plain. -/
theorem plain_of_owns_leafPair {property : Json} (owns : Owns pairedTree leafPair property) :
    ∃ type, Schema.form property = .plain type := by
  have member {v : Json} {members : List (String × Json)} {name : String}
      (same : v.membersAt "properties" = members)
      (mem : (name, property) ∈ v.membersAt "properties") : property ∈ members.map (·.2) := by
    rw [← same]
    exact List.mem_map.mpr ⟨_, mem, rfl⟩
  rcases owns_cases rfl owns with ⟨name, mem⟩ | ⟨part, part_mem, owns⟩
  · cases mem
  · rcases List.mem_pair.mp (part_mem : part ∈ [_, _]) with rfl | rfl
    · have here : lookup? pairedTree "#/definitions/Leaf" = some textLeaf := rfl
      rcases owns_cases rfl (owns_of_reference rfl here owns) with ⟨name, mem⟩ | ⟨_, none, _⟩
      · rw [List.mem_singleton.mp (member rfl mem)]
        exact ⟨_, rfl⟩
      · cases none
    · rcases owns_cases rfl owns with ⟨name, mem⟩ | ⟨_, none, _⟩
      · rw [List.mem_singleton.mp (member rfl mem)]
        exact ⟨_, rfl⟩
      · cases none

theorem guarded_pairedTree : Guarded pairedTree := by
  intro schema inside _ merges back
  have only : ∀ v ∈ pairedTree.values, 2 ≤ (v.itemsAt "allOf").length → v = leafPair := by
    intro v hv
    simp only [pairedTree, leafPair, textLeaf, Json.values, Json.memberValues, Json.itemValues,
      List.append_nil, List.mem_cons, List.not_mem_nil, or_false, List.cons_append,
      List.nil_append] at hv
    rcases hv with rfl | rfl | rfl | rfl | rfl | rfl | rfl | rfl | rfl | rfl | rfl | rfl | rfl |
      rfl | rfl | rfl | rfl | rfl | rfl | rfl <;>
      first | exact fun _ => rfl | exact fun many => absurd many (by decide)
  rw [only schema inside merges.2] at back
  have last {v : Json} (plain : ∃ type, Schema.form v = .plain type) (next : Json) :
      ¬Below pairedTree v next := by
    obtain ⟨type, plain⟩ := plain
    rintro (form | form) <;> (rw [plain] at form; cases form)
  obtain ⟨next, step, rest⟩ := Relation.TransGen.head'_iff.mp back
  have plain : ∃ type, Schema.form next = .plain type := by
    cases step with
    | inner form => cases (form : Schema.Form.object false = _)
    | property _ owns => exact plain_of_owns_leafPair owns
  rcases Relation.ReflTransGen.cases_head rest with same | ⟨_, further, _⟩
  · obtain ⟨type, plain⟩ := plain
    rw [same] at plain
    cases (plain : Schema.Form.object false = _)
  · exact last plain _ further

theorem resolving_ends_pairedTree :
    Guarded pairedTree ∧
    (∀ r, Idle r → Run.Complete (outcome (allNamed pairedTree) r).1) ∧
    (∀ path, Run.Complete (load pairedTree path)) ∧
    ∀ n, nestingBound pairedTree ≤ n → ∀ r,
      (∀ name schema, (name, schema) ∈ namedSchemas pairedTree →
        outcome (resolveRef pairedTree n (child (schemasPrefix pairedTree) name)
          (schemasPrefix pairedTree)) r = outcome (ofName pairedTree name) r) ∧
      ∀ place schema, OperationSchema pairedTree place schema → ∀ context,
        outcome (schemaType pairedTree n schema context place) r =
          outcome (ofSchema pairedTree schema context place) r :=
  ⟨guarded_pairedTree, resolving_ends guarded_pairedTree⟩

end Api
end Scaffold

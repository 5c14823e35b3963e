/-
References to named schemas. The name can be read back from the reference that is made of it, whatever
characters it has, and the reference leads to the member of the section that has the name, or nowhere:
`namedReference_exact`. A resolver that follows a reference for the first time gives out a type name for the
name in it, so that of a named schema is made from its own name.
-/
import Scaffold.Proofs.Api.Listing
import Scaffold.Proofs.Api.Sites

namespace Scaffold
namespace Api

open Resolver Resolve Json.Pointer

variable {document : Json}

/-! ## First references -/

theorem grows_making {n : Nat} {c : Call} {r r' : Resolver} {o : Except Failure c.Answer} {reference : String}
    (made : Run document n c (r.enter reference) o r') (o' : Except Failure TypeExpr) :
    Grows r (settle r' reference o') :=
  (Grows.enter r reference).trans ((run_grows made).trans (.settle r' reference o'))

/-- The first time that a reference is followed, a type name for the name in it is given out. -/
theorem claimed_of_run {n : Nat} {reference place : String} {target : Json} {r r' : Resolver}
    {o : Except Failure TypeExpr} (run : Run document n (.reference reference place) r o r') (enough : 0 < n)
    (new : r.resolved.get? reference = none) (free : reference ∉ r.inProgress)
    (here : lookup? document reference = some target) :
    .claimed (lastSegment reference) reference (r.nameFor (lastSegment reference) reference) ∈ r'.history := by
  cases run with
  | endless => exact absurd enough (Nat.lt_irrefl 0)
  | known known =>
    rw [new] at known
    cases known
  | lost _ lost =>
    rw [here] at lost
    cases lost
  | closed _ _ met | unclosed _ _ met => exact absurd met free
  -- The name is given out when the reference is entered, and the history only grows from there.
  | madeEnum _ _ _ _ made | madeObject _ _ _ _ made | madeOther _ _ _ _ made =>
    exact (grows_making made o).history List.mem_cons_self

/-! ## Names -/

theorem nestingBound_pos (document : Json) : 0 < nestingBound document :=
  Nat.mul_pos (by decide) (Nat.pow_pos (by omega))

def namedReference (document : Json) (name : String) : String :=
  child (schemasPrefix document) name

/-- The name is read back from the reference to a named schema, and the reference leads to the schema that
the section has under this name, if it has one. A resolver that is asked for the name gives out a type name
for it, unless the schema is known or in the making. -/
theorem namedReference_exact (document : Json) (name : String) :
    lastSegment (namedReference document name) = name ∧
      (∀ members, lookup? document (schemasPrefix document) = some (.object members) →
        (members.map (·.1)).Nodup → ∀ schema,
          lookup? document (namedReference document name) = some schema ↔ (name, schema) ∈ members) ∧
      ∀ schema, lookup? document (namedReference document name) = some schema → ∀ r : Resolver,
        r.resolved.get? (namedReference document name) = none →
        namedReference document name ∉ r.inProgress →
          .claimed name (namedReference document name) (r.nameFor name (namedReference document name)) ∈
            (outcome (ofName document name) r).2.history := by
  have read_back : lastSegment (namedReference document name) = name := lastSegment_child _ name
  refine ⟨read_back, fun members object distinct schema => ?_, fun schema here r new free => ?_⟩
  · rw [namedReference, lookup?_named_of_object object]
    exact ⟨Json.mem_of_lookup, Json.lookup_of_mem distinct⟩
  · have run := Run.run_compute document (nestingBound document)
      (.reference (namedReference document name) (schemasPrefix document)) r
    have claimed := claimed_of_run run (nestingBound_pos document) new free here
    rwa [read_back] at claimed

/-- Schemas with escapes, and what could be taken for escapes, in their names. -/
def escapedSchemas : List (String × Json) :=
  [("a", record [("b", typeNamed "boolean")]), ("", typeNamed "string"), ("~1", typeNamed "number"),
    ("a/b", typeNamed "string"), ("a~1/b", typeNamed "integer")]

theorem namedReference_exact_escapedSchemas :
    lookup? (listing escapedSchemas) "#/components/schemas" = some (.object escapedSchemas) ∧
      (escapedSchemas.map (·.1)).Nodup ∧ ("a~1/b", typeNamed "integer") ∈ escapedSchemas ∧
      lastSegment "#/components/schemas/a~01~1b" = "a~1/b" ∧
      lookup? (listing escapedSchemas) "#/components/schemas/a~01~1b" = some (typeNamed "integer") ∧
      .claimed "a~1/b" "#/components/schemas/a~01~1b" "A1B" ∈
        (outcome (ofName (listing escapedSchemas) "a~1/b") .start).2.history := by
  have object : lookup? (listing escapedSchemas) "#/components/schemas" = some (.object escapedSchemas) := by
    rfl
  have distinct : (escapedSchemas.map (·.1)).Nodup := by decide
  have mem : ("a~1/b", typeNamed "integer") ∈ escapedSchemas := by simp [escapedSchemas]
  obtain ⟨read_back, found, named⟩ := namedReference_exact (listing escapedSchemas) "a~1/b"
  have here := (found escapedSchemas object distinct (typeNamed "integer")).mpr mem
  exact ⟨object, distinct, mem, read_back, here, named (typeNamed "integer") here .start rfl List.not_mem_nil⟩

end Api
end Scaffold

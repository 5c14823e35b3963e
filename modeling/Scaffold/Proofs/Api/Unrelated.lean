/-
An entity does not depend on unrelated schemas. Members of the schema section that no reference
reached from a schema leads to, into or around may be added, removed or replaced, and the entity of
the schema, or its failure, stays the same: `extractEntity_unrelated`.
-/
import Scaffold.Api.Entity
import Scaffold.Proofs.Api.Reach
import Scaffold.Proofs.Api.Sites
import Scaffold.Proofs.Api.Termination
import Scaffold.Proofs.Json.Pointers

namespace Scaffold
namespace Api

open Resolver Resolve Json Json.Pointer

variable {document document' : Json} {changed : String → Prop}

/-! ## The schema section -/

/-- The reference designates a changed member of the schema section, something inside one, or what
contains them. -/
def Touches (document : Json) (changed : String → Prop) (reference : String) : Prop :=
  ∃ segments, segmentsOf reference = some segments ∧
    (segments <+: schemasPath document ∨
      ∃ name, changed name ∧ schemasPath document ++ [name] <+: segments)

/-- Two documents that differ at most in members of the schema section. -/
def Edited (changed : String → Prop) (document document' : Json) : Prop :=
  Json.Edited changed (schemasPath document) document document'

namespace Edited

theorem path_cons (document : Json) :
    ∃ first rest, schemasPath document = first :: rest ∧ first ≠ "info" := by
  unfold schemasPath
  split
  · exact ⟨_, _, rfl, by decide⟩
  · exact ⟨_, _, rfl, by decide⟩

theorem schemasPrefix_eq (edited : Edited changed document document') :
    schemasPrefix document' = schemasPrefix document := by
  obtain ⟨first, rest, path, _⟩ := path_cons document
  have isSome (key : String) : Schema.has document' key = Schema.has document key := by
    unfold Edited at edited
    rw [path] at edited
    exact edited.isSome_get? key
  unfold schemasPrefix
  rw [isSome, isSome]

theorem infoText_eq (edited : Edited changed document document') (key : String) :
    infoText document' key = infoText document key := by
  obtain ⟨first, rest, path, other⟩ := path_cons document
  unfold Edited at edited
  rw [path] at edited
  unfold infoText
  rw [edited.get?_eq other.symm]

theorem lookup?_eq (edited : Edited changed document document') {reference : String}
    (apart : ¬Touches document changed reference) :
    lookup? document' reference = lookup? document reference := by
  rw [Api.lookup?_eq, Api.lookup?_eq]
  cases found : segmentsOf reference with
  | none => rfl
  | some segments =>
    refine Json.Edited.foldlM_step?_eq edited (fun around => ?_) fun name is_changed inside => ?_
    · exact apart ⟨segments, found, .inl around⟩
    · exact apart ⟨segments, found, .inr ⟨name, is_changed, inside⟩⟩

end Edited

/-! ## Guarded walks -/

/-- No merge that is met on the way from a reference leads back to itself. -/
def GuardedFrom (document : Json) (start : String) : Prop :=
  ∀ reference schema, Relation.ReflTransGen (Leads document) start reference →
    Enters document reference schema → Merges schema →
      ¬Relation.TransGen (Below document) schema schema

/-- The zone of what is asked for and met on the way from a reference. -/
def GuardedFrom.zone {start : String} (guarded : GuardedFrom document start) : Zone document :=
  .ofLeads (Relation.ReflTransGen (Leads document) start) (fun _ _ leads => leads.tail) guarded

/-- A guarded walk does not break off. -/
theorem GuardedFrom.complete {start : String} (guarded : GuardedFrom document start)
    (place : String) (r : Resolver) :
    Run.Complete (outcome (resolveRef document (nestingBound document) start place) r).1 := by
  have enough : (Call.reference start place).Enough guarded.zone start (nestingBound document) r :=
    enough_reference .refl (Nat.le_refl _)
  exact run_ends guarded.zone (Run.run_compute document _ (.reference start place) r) enough

theorem GuardedFrom.of_sameReach {start : String} (same : SameReach document document' start)
    (guarded : GuardedFrom document start) : GuardedFrom document' start := by
  intro reference schema leads enters merges back
  obtain ⟨leads, reaches⟩ := reflTransGen_of_steps (P := Reaches document start)
    (fun _ _ => Leads.of_sameReach same) .start leads
  obtain ⟨enters, visits⟩ := enters.of_sameReach same reaches
  obtain ⟨next, step, rest⟩ := Relation.TransGen.head'_iff.mp back
  obtain ⟨step, visits⟩ := step.of_sameReach same visits
  obtain ⟨rest, _⟩ := reflTransGen_of_steps (P := Visits document start)
    (fun _ _ => Below.of_sameReach same) visits rest
  exact guarded reference schema leads enters merges (.head' step rest)

/-- A walk that visits no merge is guarded. -/
theorem guardedFrom_of_visits {start : String}
    (none : ∀ schema, Visits document start schema → ¬Merges schema) :
    GuardedFrom document start := by
  intro reference schema leads enters merges
  have same : SameReach document document start := fun _ _ => rfl
  exact absurd merges (none schema (enters.of_sameReach same (reaches_of_leads leads)).2)

/-! ## Entities -/

/-- The entity for the named object schema, with calls nested at most `n` deep. -/
def extractWithin (n : Nat) (document : Json) (schema path : String) : Except Failure Entity :=
  let place := child (schemasPrefix document) schema
  match outcome (resolveRef document n place (schemasPrefix document)) .start with
  | (.error failure, _) => .error (inFile path failure)
  | (.ok type, resolver) =>
    match resolver.table.get? type.name with
    | some ⟨name, comment, .object properties⟩ =>
      entityOf resolver.table ⟨name, comment, .object properties⟩ properties
        (Text.pascalCase (infoText document "title")) path place
    | _ => .error (inFile path ⟨place, .notAnObjectSchema schema⟩)

theorem extractEntity_eq (document : Json) (schema path : String) :
    extractEntity document schema path =
      extractWithin (nestingBound document) document schema path :=
  rfl

/-- An entity depends on the resolution of its schema, and on the title of the document. -/
theorem extractWithin_congr {n n' : Nat} {schema path : String}
    (root : schemasPrefix document' = schemasPrefix document)
    (title : infoText document' "title" = infoText document "title")
    (same : outcome (resolveRef document' n' (child (schemasPrefix document) schema)
        (schemasPrefix document)) .start =
      outcome (resolveRef document n (child (schemasPrefix document) schema)
        (schemasPrefix document)) .start) :
    extractWithin n' document' schema path = extractWithin n document schema path := by
  unfold extractWithin
  rw [root, title]
  simp only [same]

/-- If the extraction does not break off, neither does the resolution. -/
theorem complete_of_extractWithin {n : Nat} {schema path : String}
    (complete : Run.Complete (extractWithin n document schema path)) :
    Run.Complete (outcome (resolveRef document n (child (schemasPrefix document) schema)
      (schemasPrefix document)) .start).1 := by
  intro failure failed
  simp only [extractWithin] at complete
  generalize outcome (resolveRef document n (child (schemasPrefix document) schema)
    (schemasPrefix document)) .start = o at complete failed
  obtain ⟨o, resolver⟩ := o
  subst failed
  exact complete (inFile path failure) rfl

/-- The pointer to a named schema touches no other one. -/
theorem not_touches_named {schema : String} (kept : ¬changed schema) :
    ¬Touches document changed (child (schemasPrefix document) schema) := by
  rintro ⟨segments, found, touched⟩
  rw [segmentsOf_child schema (segmentsOf_schemasPrefix document)] at found
  rw [← Option.some.inj found] at touched
  rcases touched with around | ⟨name, is_changed, inside⟩
  · have := around.length_le
    rw [List.length_append, List.length_singleton] at this
    omega
  · rw [List.prefix_append_right_inj, List.cons_prefix_cons] at inside
    exact kept (inside.1 ▸ is_changed)

/-- If no reference that is met touches a changed member, all that are reached lead to the same. -/
theorem Edited.sameReach {schema : String} (edited : Edited changed document document')
    (kept : ¬changed schema)
    (apart : ∀ visited reference, Visits document (child (schemasPrefix document) schema) visited →
      Schema.ref? visited = some reference → ¬Touches document changed reference) :
    SameReach document document' (child (schemasPrefix document) schema) := by
  intro reference reaches
  cases reaches with
  | start => exact edited.lookup?_eq (not_touches_named kept)
  | next reaches here sub ref =>
    exact edited.lookup?_eq (apart _ reference ⟨_, _, reaches, here, sub⟩ ref)

/-- What does not break off in either of two documents that have the same within reach is the same
in both: they do the same at the greater of their bounds, and neither needs more than its own. -/
theorem SameReach.resolve_eq {start place : String} {r : Resolver}
    (same : SameReach document document' start)
    (complete : Run.Complete (outcome (resolveRef document (nestingBound document) start place) r).1)
    (complete' : Run.Complete
      (outcome (resolveRef document' (nestingBound document') start place) r).1) :
    outcome (resolveRef document' (nestingBound document') start place) r =
      outcome (resolveRef document (nestingBound document) start place) r := by
  let bound := max (nestingBound document) (nestingBound document')
  calc outcome (resolveRef document' (nestingBound document') start place) r
    _ = outcome (resolveRef document' bound start place) r :=
      (Run.outcome_compute_of_le (c := .reference start place) complete'
        (Nat.le_max_right ..)).symm
    _ = outcome (resolveRef document bound start place) r :=
      outcome_resolveRef_transfer same bound place r
    _ = outcome (resolveRef document (nestingBound document) start place) r :=
      Run.outcome_compute_of_le (c := .reference start place) complete (Nat.le_max_left ..)

/-- Members of the schema section that no reference reached from a schema touches are of no account
for its entity. However deep calls may be nested, the entity or the failure is the same; and what
is extracted is the same if neither extraction breaks off, as is certain where the walk from the
schema is guarded. -/
theorem extractEntity_unrelated {schema : String} (edited : Edited changed document document')
    (kept : ¬changed schema)
    (apart : ∀ visited reference, Visits document (child (schemasPrefix document) schema) visited →
      Schema.ref? visited = some reference → ¬Touches document changed reference)
    (path : String) :
    (∀ n, extractWithin n document' schema path = extractWithin n document schema path) ∧
    (Run.Complete (extractEntity document schema path) →
      Run.Complete (extractEntity document' schema path) →
      extractEntity document' schema path = extractEntity document schema path) ∧
    (GuardedFrom document (child (schemasPrefix document) schema) →
      extractEntity document' schema path = extractEntity document schema path) := by
  have same := edited.sameReach kept apart
  have root := edited.schemasPrefix_eq
  have title := edited.infoText_eq "title"
  refine ⟨fun n => ?_, fun complete complete' => ?_, fun guarded => ?_⟩
  · exact extractWithin_congr root title (outcome_resolveRef_transfer same n _ .start)
  · rw [extractEntity_eq] at complete complete' ⊢
    rw [extractEntity_eq]
    refine extractWithin_congr root title (same.resolve_eq (complete_of_extractWithin complete) ?_)
    rw [← root]
    exact complete_of_extractWithin complete'
  · rw [extractEntity_eq, extractEntity_eq]
    exact extractWithin_congr root title
      (same.resolve_eq (guarded.complete _ .start) ((guarded.of_sameReach same).complete _ .start))

/-! ## Strays beside a cat -/

/-- A reference to a named schema. -/
def petRef (name : String) : Json :=
  .object [("$ref", .string ("#/components/schemas/" ++ name))]

/-- A cat and its owner, who refer to each other, and other schemas. -/
def pets (others : List (String × Json)) : Json :=
  .object [("openapi", .string "3.0.0"), ("info", .object [("title", .string "pets")]),
    ("components", .object [("schemas", .object (others ++ [
      ("Cat", .object [("properties", .object [("name", .object [("type", .string "string")]),
        ("owners", .object [("type", .string "array"), ("items", petRef "Owner")])])]),
      ("Owner", .object [("allOf", .array [petRef "Person"]),
        ("properties", .object [("pet", petRef "Cat")])]),
      ("Person", .object [("properties", .object [("age", .object [("type", .string "integer")])])])
      ]))])]

/-- A schema that leads nowhere, and one that is not used. -/
def lostStrays : Json :=
  pets [("Stray", .object [("properties", .object [("home", petRef "Nowhere")])]),
    ("Old", .object [("type", .string "string")])]

/-- A merge that leads back to itself, and an alias. -/
def runawayStrays : Json :=
  pets [("Cats", petRef "Cat"),
    ("Stray", .object [("properties", .object [("home", .object [
      ("allOf", .array [petRef "Stray", .object []])])])])]

/-- The names of the schemas that differ. -/
def IsStray (name : String) : Prop :=
  name ∈ ["Stray", "Old", "Cats"]

instance (name : String) : Decidable (IsStray name) :=
  inferInstanceAs (Decidable (name ∈ _))

theorem edited_strays : Edited IsStray lostStrays runawayStrays := by
  refine .inner rfl rfl (fun key other => ?_) (.inner rfl rfl (fun key other => ?_) ?_)
  · simp [lookup, List.find?_cons, Ne.symm other]
  · simp [lookup, Ne.symm other]
  · refine .here fun key kept => ?_
    obtain ⟨stray, old, cats⟩ : "Stray" ≠ key ∧ "Old" ≠ key ∧ "Cats" ≠ key := by
      simpa [IsStray, eq_comm] using kept
    simp [lookup, List.find?_cons, stray, old, cats]

/-- The schemas that a cat depends on. -/
def catNames : List String :=
  ["Cat", "Owner", "Person"]

theorem closed_catNames :
    ClosedUnderRefs lostStrays (catNames.map (child (schemasPrefix lostStrays))) := by
  decide

theorem not_merges_of_cat {schema : Json}
    (visits : Visits lostStrays (child (schemasPrefix lostStrays) "Cat") schema) :
    ¬Merges schema := by
  obtain ⟨reference, target, reaches, here, sub⟩ := visits
  have reached := reaches.mem_of_closed closed_catNames (by decide)
  have few : ∀ reference ∈ catNames.map (child (schemasPrefix lostStrays)),
      ∀ target ∈ lookup? lostStrays reference, ∀ v ∈ target.values,
        (v.itemsAt "allOf").length < 2 := by
    decide
  have := few reference reached target here schema
    (values_subset_of_subs sub (mem_values_self schema))
  intro merges
  exact absurd merges.2 (by omega)

theorem apart_cat (visited : Json) (reference : String)
    (visits : Visits lostStrays (child (schemasPrefix lostStrays) "Cat") visited)
    (ref : Schema.ref? visited = some reference) : ¬Touches lostStrays IsStray reference := by
  have reached := (visits.reaches ref).mem_of_closed closed_catNames (by decide)
  obtain ⟨name, mem, rfl⟩ := List.mem_map.mp reached
  have kept : ∀ name ∈ catNames, ¬IsStray name := by decide
  exact not_touches_named (kept name mem)

/-- A cat stays what it is when what strays beside it can no longer be resolved at all. -/
theorem extractEntity_unrelated_cat :
    Edited IsStray lostStrays runawayStrays ∧ ¬IsStray "Cat" ∧
    (∀ visited reference,
      Visits lostStrays (child (schemasPrefix lostStrays) "Cat") visited →
      Schema.ref? visited = some reference → ¬Touches lostStrays IsStray reference) ∧
    GuardedFrom lostStrays (child (schemasPrefix lostStrays) "Cat") ∧
    (∀ n, extractWithin n runawayStrays "Cat" "pets.json" =
      extractWithin n lostStrays "Cat" "pets.json") ∧
    extractEntity runawayStrays "Cat" "pets.json" = extractEntity lostStrays "Cat" "pets.json" := by
  have kept : ¬IsStray "Cat" := by decide
  have guarded := guardedFrom_of_visits fun schema visits => not_merges_of_cat visits
  have unrelated := extractEntity_unrelated edited_strays kept apart_cat "pets.json"
  exact ⟨edited_strays, kept, apart_cat, guarded, unrelated.1, unrelated.2.2 guarded⟩

end Api
end Scaffold

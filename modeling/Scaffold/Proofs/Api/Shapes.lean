/-
What types look like that a document has: all of them are lists, and maps from texts, around primitives
and names, `load_resolved`.
-/
import Scaffold.Proofs.Api.Forms
import Scaffold.Proofs.Api.Operations
import Scaffold.Proofs.Api.Promises

namespace Scaffold
namespace Api

open Resolver Resolve TypeExpr

variable {document : Json}

/-- Known types and those in definitions are types of schemas. -/
structure Shaped (r : Resolver) : Prop where
  resolved : ∀ reference type, r.resolved.get? reference = some type → Resolved type
  table : ∀ d ∈ r.table.values, ∀ t ∈ d.propertyTypes, Resolved t

namespace Shaped

theorem start : Shaped .start :=
  ⟨by simp [Resolver.start], by simp [Resolver.start, KeyMap.empty, KeyMap.values]⟩

theorem claim {r : Resolver} (h : Shaped r) (wanted place : String) : Shaped (r.claim wanted place) :=
  ⟨h.resolved, h.table⟩

theorem enter {r : Resolver} (h : Shaped r) (reference : String) : Shaped (r.enter reference) :=
  ⟨h.resolved, h.table⟩

theorem offer {r : Resolver} (h : Shaped r) (place : String) (source : Source) {d : TypeDefinition}
    (types : ∀ t ∈ d.propertyTypes, Resolved t) : Shaped (r.offer place source d) where
  resolved := h.resolved
  table d' mem t ht := by
    rcases TypeTable.mem_values_define mem with rfl | old
    · exact types t ht
    · exact h.table d' old t ht

theorem settle {r : Resolver} {o : Except Failure TypeExpr} (h : Shaped r) (reference : String)
    (types : ∀ t, o = .ok t → Resolved t) : Shaped (settle r reference o) := by
  cases o with
  | error failure => exact ⟨h.resolved, h.table⟩
  | ok type =>
    refine ⟨fun other t found => ?_, h.table⟩
    simp only [Resolve.settle, remember, leave, KeyMap.get?_insert] at found
    split at found
    · rw [← Option.some.inj found]
      exact types type rfl
    · exact h.resolved other t found

end Shaped

/-- What every call keeps: if only types of schemas are known, so it is afterwards, and the answer is
about such types. -/
def KeepsShapes (c : Call) (r : Resolver) (o : Except Failure c.Answer) (r' : Resolver) : Prop :=
  Shaped r → (∀ t ∈ c.given, Resolved t) →
    Shaped r' ∧ ∀ a, o = .ok a → ∀ t ∈ c.types a, Resolved t

theorem run_shaped {n : Nat} {c : Call} {r r' : Resolver} {o : Except Failure c.Answer}
    (run : Run document n c r o r') : KeepsShapes c r o r' := by
  induction run with
  | endless | lost | unclosed | noEnum | lostPart => exact fun shaped _ => ⟨shaped, nofun⟩
  | known known =>
    refine fun shaped _ => ⟨shaped, ?_⟩
    rintro _ ⟨⟩
    exact List.forall_mem_singleton.mpr (shaped.resolved _ _ known)
  | closed =>
    refine fun shaped _ => ⟨shaped.claim _ _, ?_⟩
    rintro _ ⟨⟩
    exact List.forall_mem_singleton.mpr (.reference _)
  | madeEnum _ _ _ _ _ ih | madeObject _ _ _ _ _ ih | madeOther _ _ _ _ _ ih =>
    intro shaped _
    obtain ⟨shaped', types⟩ := ih ((shaped.claim _ _).enter _) (List.forall_mem_nil _)
    have answer t ok := types t ok t List.mem_cons_self
    exact ⟨shaped'.settle _ answer, fun t ok => List.forall_mem_singleton.mpr (answer t ok)⟩
  | asked _ _ ih | inner _ _ ih =>
    intro shaped _
    obtain ⟨shaped', types⟩ := ih shaped (List.forall_mem_nil _)
    refine ⟨shaped', fun type ok => ?_⟩
    obtain ⟨t, rfl, rfl⟩ := eq_ok_of_map ok
    exact List.forall_mem_singleton.mpr (Schema.Wrap.resolved (types t rfl t List.mem_cons_self) _)
  | inlineObject _ _ ih | inlineEnum _ _ ih =>
    intro shaped _
    obtain ⟨shaped', types⟩ := ih (shaped.claim _ _) (List.forall_mem_nil _)
    refine ⟨shaped', fun type ok => ?_⟩
    obtain ⟨t, rfl, rfl⟩ := eq_ok_of_map ok
    exact List.forall_mem_singleton.mpr ((types t rfl t List.mem_cons_self).withNullable _)
  | plain form =>
    refine fun shaped _ => ⟨shaped, ?_⟩
    rintro _ ⟨⟩
    exact List.forall_mem_singleton.mpr (Schema.resolved_of_form_plain form)
  | enum =>
    refine fun shaped _ => ⟨shaped.offer _ _ (List.forall_mem_nil _), ?_⟩
    rintro _ ⟨⟩
    exact List.forall_mem_singleton.mpr (.enumeration _)
  | object run ih =>
    intro shaped _
    obtain ⟨shaped', types⟩ := ih shaped (List.forall_mem_nil _)
    refine ⟨shaped'.offer _ _ (types _ rfl), ?_⟩
    rintro _ ⟨⟩
    exact List.forall_mem_singleton.mpr (.reference _)
  | noObject _ ih =>
    exact fun shaped _ => ⟨(ih shaped (List.forall_mem_nil _)).1, nofun⟩
  | seen | noParts | noMembers =>
    refine fun shaped given => ⟨shaped, ?_⟩
    rintro _ ⟨⟩
    exact given
  | followed _ _ _ _ ih => exact ih
  | failedParts _ _ ih | failedPart _ ih => exact fun shaped given => ⟨(ih shaped given).1, nofun⟩
  | failedMember _ ih => exact fun shaped _ => ⟨(ih shaped (List.forall_mem_nil _)).1, nofun⟩
  | own _ _ _ first second | part _ _ first second =>
    intro shaped given
    obtain ⟨shaped', types⟩ := first shaped given
    exact second shaped' (types _ rfl)
  | member _ _ first second =>
    intro shaped given
    obtain ⟨shaped', types⟩ := first shaped (List.forall_mem_nil _)
    refine second shaped' fun t mem => ?_
    rcases mem_types_putProperty mem with rfl | old
    · exact types _ rfl _ List.mem_cons_self
    · exact given t old

/-! ## Documents -/

theorem ensures_shaped (n : Nat) (c : Call) (given : c.given = []) :
    Ensures Shaped (fun _ _ => True) (fun _ => True) (c.compute document n)
      fun a _ => ∀ t ∈ c.types a, Resolved t := by
  intro r shaped _
  have run := Run.run_compute document n c r
  generalize outcome (c.compute document n) r = o at run ⊢
  obtain ⟨failure | a, r'⟩ := o
  · trivial
  · obtain ⟨shaped', types⟩ := run_shaped run shaped (by simp [given])
    exact ⟨shaped', run_grows run, types a rfl⟩

theorem steady_shaped : Steady document Shaped (fun t _ => Resolved t) fun _ _ => True where
  lasting _ := .const _
  fails _ _ := trivial
  schema {schema context place} _ :=
    (ensures_shaped (nestingBound document) (.schema schema context place) rfl).mono (fun _ h => h)
      fun t _ h => h t List.mem_cons_self
  claim wanted place shaped := shaped.claim wanted place
  form {r name first rest properties} _ shaped _ types := by
    refine ⟨shaped.offer _ _ fun t mem => ?_, .reference name⟩
    obtain ⟨p, hp, rfl⟩ := List.mem_map.mp mem
    exact types p hp

/-- The types in the definitions of a loaded document are types of schemas. -/
theorem load_resolved {path : String} {d : Document} (loaded : load document path = .ok d) :
    ∀ definition ∈ d.types.values, ∀ t ∈ definition.propertyTypes, Resolved t := by
  obtain ⟨r, run, types⟩ := outcome_of_load loaded
  have named : Ensures Shaped (fun _ _ => True) (fun _ => True) (allNamed document) fun _ _ => True :=
    ensures_allNamed fun {name _} _ =>
      (ensures_shaped (nestingBound document) (.reference (Json.Pointer.child (schemasPrefix document)
        name) (schemasPrefix document)) rfl).mono (fun _ h => h) fun _ _ _ => trivial
  have all : Ensures Shaped (fun _ _ => True) (fun _ => True) (everything document) fun ops _ =>
      ∀ op ∈ ops, ∀ t ∈ op.signatureTypes, Resolved t :=
    .bind named fun _ => steady_shaped.operations_spec
  have ends := all .start .start trivial
  rw [run] at ends
  rw [types]
  exact ends.1.table

end Api
end Scaffold

/-
What a resolver knows when all named schemas were resolved: each has a type, and those that are
objects or enums have a definition in the table, under a name that belongs to their place and as the
document means it (`Finished.entry`).
-/
import Scaffold.Proofs.Api.Consistency
import Scaffold.Proofs.Api.Ownership
import Scaffold.Proofs.Api.Section
import Scaffold.Proofs.Api.Understood
import Scaffold.Proofs.Api.Wants

namespace Scaffold
namespace Api

open Resolver Resolve Json.Pointer

variable {document : Json} {marks names : Bool} {r r' : Resolver}

/-! ## Names of references -/

/-- What was resolved as an object or an enum has a definition, and its name is that of the reference. -/
def Tabled (document : Json) (r : Resolver) : Prop :=
  ∀ reference target type, r.resolved.get? reference = some type →
    lookup? document reference = some target → Schema.kind target ≠ .other →
    r.names.get? type.name = some reference ∧ ∃ d, r.table.get? type.name = some d

namespace Tabled

theorem start (document : Json) : Tabled document .start :=
  nofun

theorem of_grows (h : Tabled document r) (grows : Grows r r') (resolved : r'.resolved = r.resolved) :
    Tabled document r' := by
  intro reference target type found here kind
  obtain ⟨owner, d, entry⟩ := h reference target type (resolved ▸ found) here kind
  exact ⟨grows.names _ _ owner, d, grows.table _ d entry⟩

theorem settle (h : Tabled document r) {reference : String} {o : Except Failure TypeExpr}
    (own : ∀ target type, lookup? document reference = some target → Schema.kind target ≠ .other →
      o = .ok type → r.names.get? type.name = some reference ∧ ∃ d, r.table.get? type.name = some d) :
    Tabled document (Resolve.settle r reference o) := by
  cases o with
  | error => exact h.of_grows (.settle ..) rfl
  | ok type =>
    intro reference' target type' found here kind
    simp only [Resolve.settle, remember, KeyMap.get?_insert] at found
    split at found
    · next same =>
      subst same
      rw [← Option.some.inj found]
      exact own target type here kind rfl
    · exact h reference' target type' found here kind

end Tabled

/-- An enum that was made has its name in the table. -/
theorem enum_defined {n : Nat} {name place : String} {schema : Json} {type : TypeExpr}
    (run : Run document n (.enum name schema place) r (.ok type) r') :
    ∃ d, r'.table.get? name = some d := by
  cases run with
  | enum => exact TypeTable.exists_get?_define _ _

/-- An object is known by the name that it was made for. -/
theorem run_object_name {n : Nat} {name place : String} {schema : Json} {type : TypeExpr}
    (run : Run document n (.object name schema place) r (.ok type) r') : type.name = name := by
  cases run
  rfl

theorem run_tabled {n : Nat} {c : Call} {o : Except Failure c.Answer} (run : Run document n c r o r')
    (h : Tabled document r) : Tabled document r' := by
  induction run with
  | endless | known | lost | unclosed | plain | noEnum | seen | lostPart | noParts | noMembers =>
    exact h
  | closed => exact h.of_grows (.claim ..) rfl
  | madeEnum _ _ _ _ made ih =>
    refine (ih (h.of_grows ((Grows.claim ..).trans (.enter ..)) rfl)).settle ?_
    rintro _ type - - rfl
    rw [run_enum_name made]
    exact ⟨(run_grows made).names _ _ (get?_claim ..), enum_defined made⟩
  | madeObject _ _ _ _ made ih =>
    refine (ih (h.of_grows ((Grows.claim ..).trans (.enter ..)) rfl)).settle ?_
    rintro _ type - - rfl
    rw [run_object_name made]
    exact ⟨(run_grows made).names _ _ (get?_claim ..), object_defined made⟩
  | madeOther _ here _ kind _ ih =>
    refine (ih (h.of_grows ((Grows.claim ..).trans (.enter ..)) rfl)).settle fun target _ here' other => ?_
    rw [here] at here'
    rw [← Option.some.inj here', kind] at other
    exact absurd rfl other
  | asked _ _ ih | inner _ _ ih | noObject _ ih | followed _ _ _ _ ih | failedParts _ _ ih
  | failedPart _ ih | failedMember _ ih => exact ih h
  | inlineObject _ _ ih | inlineEnum _ _ ih => exact ih (h.of_grows (.claim ..) rfl)
  | enum => exact h.of_grows (.offer ..) rfl
  | object _ ih => exact (ih h).of_grows (.offer ..) rfl
  | own _ _ _ first second | part _ _ first second | member _ _ first second =>
    exact second (first h)

/-! ## Between named schemas -/

/-- What names and marks are asked for can be told of the document. -/
structure Tells (document : Json) (marks names : Bool) : Prop where
  proper : CyclesProper document
  unmarked : marks = true → CyclesUnmarked document
  apart : names = true → NamesApart document

/-- Nothing is in progress, and all that is known is meant so. -/
structure Finished (document : Json) (marks names : Bool) (r : Resolver) : Prop where
  idle : Idle r
  recorded : Recorded r
  tabled : Tabled document r
  unnumbered : names = true → Unnumbered document r
  understood : Understood document marks names r
  offers : Offers (FromSchema (.whole document)) r
  sorted : Sorted document r

theorem Finished.start (document : Json) (marks names : Bool) : Finished document marks names .start :=
  ⟨rfl, .start, .start document, fun _ => .start document, .start, .start, .start document⟩

/-- A named schema that is resolved between calls leaves nothing open. -/
theorem Finished.named (tells : Tells document marks names) (distinct : DistinctKeys document)
    {n : Nat} {name : String} {schema : Json} {type : TypeExpr}
    (mem : (name, schema) ∈ namedSchemas document) (h : Finished document marks names r)
    (run : Run document n (.reference (child (schemasPrefix document) name)
      (schemasPrefix document)) r (.ok type) r') : Finished document marks names r' := by
  have asked : AskedByNames document (child (schemasPrefix document) name) :=
    ⟨name, schema, mem, .refl⟩
  have nothing (q : String) : q ∉ r.inProgress := by
    rw [show r.inProgress = [] from h.idle]
    exact List.not_mem_nil
  have under : (Call.reference (child (schemasPrefix document) name)
      (schemasPrefix document)).Under document r := ⟨asked, fun q met => absurd met (nothing q)⟩
  have unnumbered (matter : names = true) : Unnumbered document r' :=
    run_unnumbered (tells.apart matter) run (h.unnumbered matter) asked
  have ends := run_understood tells.proper tells.unmarked run h.understood trivial trivial under
    (fun matter => (unnumbered matter).given) type rfl
  exact ⟨(run_inProgress run).trans h.idle, run_recorded run h.recorded trivial,
    run_tabled run h.tabled, unnumbered, ends.1,
    run_sited distinct (fun _ _ reference _ => covers_whole document reference) id run h.offers
      (covers_whole document (child (schemasPrefix document) name)),
    run_sorted run h.sorted trivial⟩

/-- All named schemas have types, and nothing is left open. -/
theorem finished_of_allNamed (tells : Tells document marks names) (distinct : DistinctKeys document)
    (h : outcome (allNamed document) .start = (.ok ⟨⟩, r)) :
    Finished document marks names r ∧ ∀ name schema, (name, schema) ∈ namedSchemas document →
      ∃ type, r.resolved.get? (child (schemasPrefix document) name) = some type := by
  obtain ⟨-, known⟩ := consistent_of_allNamed h
  obtain ⟨finished, -⟩ := allNamed_ok (I := Finished document marks names) (P := fun _ _ => True)
    (.start document marks names)
    (fun mem finished run =>
      ⟨finished.named tells distinct mem run, trivial, fun _ _ => trivial⟩) h
  exact ⟨finished, fun name schema mem => (known name schema mem).resolved finished.idle⟩

/-! ## Entries -/

theorem object_of_kind {v : Json} (kind : Schema.kind v ≠ .other) :
    ∃ members, v = .object members := by
  cases v with
  | object members => exact ⟨members, rfl⟩
  | _ => exact absurd rfl kind

/-- What was resolved as an object or an enum was offered, and is in the table under the name in its
type. -/
theorem Finished.offered (h : Finished document marks names r) {reference : String} {target : Json}
    {type : TypeExpr} (found : r.resolved.get? reference = some type)
    (here : lookup? document reference = some target) (kind : Schema.kind target ≠ .other) :
    ∃ d, r.table.get? type.name = some d ∧ .offered reference (.schema target) d ∈ r.history := by
  obtain ⟨own, d, entry⟩ := h.tabled reference target type found here kind
  obtain ⟨place, source, offered⟩ := mem_of_firstOffered ((h.recorded.first _).symm.trans entry)
  have owner := h.recorded.offered offered
  rw [h.recorded.name_eq entry, own] at owner
  obtain rfl := Option.some.inj owner
  obtain ⟨members, rfl⟩ := object_of_kind kind
  obtain ⟨located⟩ := h.offers reference source d offered
  rw [located_unique located (covers_whole document reference _ here)] at offered
  exact ⟨d, entry, offered⟩

/-- A named schema that is an object or an enum has the definition that is meant, under the name in
its type. -/
theorem Finished.entry (h : Finished document marks names r) {key : String} {target : Json}
    {type : TypeExpr} (found : r.resolved.get? (child (schemasPrefix document) key) = some type)
    (here : lookup? document (child (schemasPrefix document) key) = some target)
    (kind : Schema.kind target ≠ .other) :
    ∃ d, r.table.get? type.name = some d ∧ d.name = type.name ∧
      r.names.get? d.name = some (child (schemasPrefix document) key) ∧
      Stated document marks names (child (schemasPrefix document) key) target r d ∧
      (Schema.kind target = .enum → d.isEnum = true) := by
  obtain ⟨d, entry, offered⟩ := h.offered found here kind
  have name := h.recorded.name_eq entry
  refine ⟨d, entry, name, h.recorded.offered offered, h.understood.offered _ target d offered, ?_⟩
  intro enum
  refine (h.sorted.offered key target d offered enum).resolve_right fun ⟨inner, named⟩ => ?_
  rw [name] at named
  exact h.sorted.resolved key target type inner here enum found named

end Api
end Scaffold

/-
Type names belong to places for ever. Whatever is asked of a resolver, and in whatever order, a
name stays with the place that claimed it, a place that claims again gets the name it had, and no
two places have one name; so what is offered to the table under one name comes from one place.
-/
import Scaffold.Proofs.Api.Operations
import Scaffold.Proofs.Api.Sites

namespace Scaffold
namespace Api

open Resolver Resolve Json.Pointer

variable {document : Json}

/-! ## Whatever is asked -/

/-- The states that a resolver of a document comes to, whatever it is asked; a request that fails
leaves it in some state too. -/
inductive Reached (document : Json) : Resolver → Prop where
  | start : Reached document .start
  | all {r : Resolver} (before : Reached document r) :
      Reached document (outcome (allNamed document) r).2
  | named {r : Resolver} (before : Reached document r) (name : String) :
      Reached document (outcome (ofName document name) r).2
  | schema {r : Resolver} (before : Reached document r) (schema : Json) (context place : String) :
      Reached document (outcome (ofSchema document schema context place) r).2
  | operations {r : Resolver} (before : Reached document r) :
      Reached document (outcome (operations document) r).2

variable (document) in
theorem ensures_recorded (n : Nat) (c : Call) (owned : ∀ r, c.Owned r) :
    Ensures Recorded (fun _ => Recorded) (fun _ => True) (c.compute document n) fun _ _ => True :=
  .of_run fun {r _ _} run recorded => run_recorded run recorded (owned r)

variable (document) in
theorem ensures_ofName_recorded (name : String) :
    Ensures Recorded (fun _ => Recorded) (fun _ => True) (ofName document name) fun _ _ => True :=
  ensures_recorded document (nestingBound document)
    (.reference (child (schemasPrefix document) name) (schemasPrefix document)) fun _ => trivial

theorem steady_recorded : Steady document Recorded (fun _ _ => True) fun _ => Recorded where
  lasting _ := .const True
  fails recorded _ := recorded
  schema {schema context place} _ :=
    ensures_recorded document (nestingBound document) (.schema schema context place) fun _ => trivial
  claim _ _ recorded := recorded.claim _ _
  form _ recorded owned _ := ⟨recorded.offer _ owned, trivial⟩

theorem Reached.recorded {r : Resolver} (h : Reached document r) : Recorded r := by
  induction h with
  | start => exact .start
  | all _ ih => exact (ensures_allNamed fun _ => ensures_ofName_recorded document _).kept ih
  | named _ name ih => exact (ensures_ofName_recorded document name).kept ih
  | schema _ schema context place ih =>
    exact (ensures_recorded document (nestingBound document) (.schema schema context place)
      fun _ => trivial).kept ih
  | operations _ ih => exact steady_recorded.operations_spec.kept ih

/-! ## Only named schemas -/

/-- The states of a resolver that is only asked for named schemas. -/
inductive ReachedByNames (document : Json) : Resolver → Prop where
  | start : ReachedByNames document .start
  | all {r : Resolver} (before : ReachedByNames document r) :
      ReachedByNames document (outcome (allNamed document) r).2
  | named {r : Resolver} (before : ReachedByNames document r) (name : String) :
      ReachedByNames document (outcome (ofName document name) r).2

theorem ReachedByNames.reached {r : Resolver} (h : ReachedByNames document r) :
    Reached document r := by
  induction h with
  | start => exact .start
  | all _ ih => exact .all ih
  | named _ name ih => exact .named ih name

theorem ensures_ofName_offers {layout : Layout} {P : String → Source → Prop}
    (distinct : DistinctKeys document) (covers : CoversAll document layout)
    (allowed : ∀ {place source}, FromSchema layout place source → P place source) {name : String}
    (covers_name : Covers document layout (child (schemasPrefix document) name)) :
    Ensures (Offers P) (fun _ => Offers P) (fun _ => True) (ofName document name)
      fun _ _ => True :=
  .of_run (c := .reference (child (schemasPrefix document) name) (schemasPrefix document))
    fun run offers => run_sited distinct covers allowed run offers covers_name

theorem ReachedByNames.offers (distinct : DistinctKeys document) {r : Resolver}
    (h : ReachedByNames document r) : Offers (FromSchema (.whole document)) r := by
  have named (name : String) := ensures_ofName_offers distinct
    (fun _ _ reference _ => covers_whole document reference) id
    (covers_whole document (child (schemasPrefix document) name))
  induction h with
  | start => exact .start
  | all _ ih => exact (ensures_allNamed fun {name _} _ => named name).kept ih
  | named _ name ih => exact (named name).kept ih

/-! ## Entries are not shared -/

/-- What is true of names and entries in every state of a resolver. -/
structure Unshared (r : Resolver) : Prop where
  /-- A name stays with the place that claimed it. -/
  stays : ∀ wanted place name, .claimed wanted place name ∈ r.history →
    r.names.get? name = some place
  /-- The same place gets the same name for the same wish, before and after. -/
  again : ∀ wanted place name name', .claimed wanted place name ∈ r.history →
    .claimed wanted place name' ∈ r.history → name' = name
  next : ∀ wanted place name, .claimed wanted place name ∈ r.history →
    r.nameFor wanted place = name
  /-- Two places never have one name. -/
  apart : ∀ wanted place wanted' place' name, .claimed wanted place name ∈ r.history →
    .claimed wanted' place' name ∈ r.history → place' = place
  /-- Definitions that are offered under one name come from one place. -/
  offers : ∀ place source d place' source' d', .offered place source d ∈ r.history →
    .offered place' source' d' ∈ r.history → d'.name = d.name → place' = place
  /-- The table holds the first definition that was offered under each name. -/
  first : ∀ name, r.table.get? name = firstOffered name r.history

theorem Recorded.unshared {r : Resolver} (h : Recorded r) : Unshared r where
  stays _ _ _ claimed := h.owned claimed
  again _ _ _ _ claimed claimed' := (h.again claimed').symm.trans (h.again claimed)
  next _ _ _ claimed := h.again claimed
  apart _ _ _ _ _ claimed claimed' :=
    Option.some.inj ((h.owned claimed').symm.trans (h.owned claimed))
  offers _ _ _ _ _ _ offered offered' same := by
    have owner := h.offered offered'
    rw [same, h.offered offered] at owner
    exact (Option.some.inj owner).symm
  first := h.first

end Api
end Scaffold

/-
What the walk from one reference can see of a document: the references that it reaches, and the
schemas that it visits on the way. Runs stay within that (`Call.Within`), so a document in which all
references that are reached lead to the same has the same runs: `Run.transfer`.
-/
import Scaffold.Proofs.Api.Cycles
import Scaffold.Proofs.Api.Nesting

namespace Scaffold
namespace Api

open Resolver Resolve Json.Pointer

/-! ## Reach -/

/-- A schema inside another one, on which the type or the properties of that may depend. -/
inductive Sub (schema : Json) : Json → Prop where
  | inner {inner : Json} {suffix segment : String} {wrap : Schema.Wrap}
      (form : Schema.form schema = .inner inner suffix segment wrap) : Sub schema inner
  | part {part : Json} (mem : part ∈ schema.itemsAt "allOf") : Sub schema part
  | property {name : String} {property : Json}
      (mem : (name, property) ∈ schema.membersAt "properties") : Sub schema property

/-- The references that are reached from a first one, through what they lead to. -/
inductive Reaches (document : Json) (start : String) : String → Prop where
  | start : Reaches document start start
  | next {reference next : String} {target schema : Json}
      (reaches : Reaches document start reference)
      (here : lookup? document reference = some target)
      (sub : Relation.ReflTransGen Sub target schema) (ref : Schema.ref? schema = some next) :
      Reaches document start next

/-- A schema that is visited from a first reference. -/
def Visits (document : Json) (start : String) (schema : Json) : Prop :=
  ∃ reference target, Reaches document start reference ∧
    lookup? document reference = some target ∧ Relation.ReflTransGen Sub target schema

variable {document document' : Json} {start : String}

theorem Reaches.visits {reference : String} {target : Json}
    (reaches : Reaches document start reference)
    (here : lookup? document reference = some target) : Visits document start target :=
  ⟨reference, target, reaches, here, .refl⟩

namespace Visits

variable {schema : Json}

theorem sub {next : Json} (visits : Visits document start schema) (sub : Sub schema next) :
    Visits document start next := by
  obtain ⟨reference, target, reaches, here, chain⟩ := visits
  exact ⟨reference, target, reaches, here, chain.tail sub⟩

theorem reaches {next : String} (visits : Visits document start schema)
    (ref : Schema.ref? schema = some next) : Reaches document start next := by
  obtain ⟨reference, target, reaches, here, chain⟩ := visits
  exact .next reaches here chain ref

end Visits

theorem Sub.values_subset {schema next : Json} (sub : Sub schema next) :
    next.values ⊆ schema.values := by
  cases sub with
  | inner form => exact (Schema.inner_of_form form).values_subset
  | part mem => exact Json.values_subset_of_mem_itemsAt mem
  | property mem => exact Json.values_subset_of_mem_membersAt mem

theorem values_subset_of_subs {target schema : Json}
    (chain : Relation.ReflTransGen Sub target schema) : schema.values ⊆ target.values := by
  induction chain with
  | refl => exact fun _ mem => mem
  | tail _ sub ih => exact fun _ mem => ih (sub.values_subset mem)

/-- No reference inside what these lead to is another one. -/
def ClosedUnderRefs (document : Json) (references : List String) : Prop :=
  ∀ reference ∈ references, ∀ target ∈ lookup? document reference, ∀ v ∈ target.values,
    ∀ next ∈ Schema.ref? v, next ∈ references

instance (document : Json) (references : List String) :
    Decidable (ClosedUnderRefs document references) :=
  inferInstanceAs (Decidable (∀ reference ∈ references, _))

/-- What is reached is among any references that are closed under those inside what they lead to. -/
theorem Reaches.mem_of_closed {references : List String} {reference : String}
    (closed : ClosedUnderRefs document references) (first : start ∈ references)
    (reaches : Reaches document start reference) : reference ∈ references := by
  induction reaches with
  | start => exact first
  | @next reference next target schema _ here chain ref ih =>
    exact closed reference ih target here schema
      (values_subset_of_subs chain (Json.mem_values_self schema)) next ref

/-- The other document has the same wherever the walk looks. -/
def SameReach (document document' : Json) (start : String) : Prop :=
  ∀ reference, Reaches document start reference →
    lookup? document' reference = lookup? document reference

/-! ## The same walk in both documents -/

/-- Steps that keep a condition, and are steps of another kind where it holds, lead on as those. -/
theorem reflTransGen_of_steps {α : Type} {step step' : α → α → Prop} {P : α → Prop}
    (steps : ∀ a b, P a → step' a b → step a b ∧ P b) {a b : α} (start : P a)
    (chain : Relation.ReflTransGen step' a b) : Relation.ReflTransGen step a b ∧ P b := by
  induction chain with
  | refl => exact ⟨.refl, start⟩
  | tail _ last ih =>
    obtain ⟨before, holds⟩ := ih
    obtain ⟨last, holds⟩ := steps _ _ holds last
    exact ⟨before.tail last, holds⟩

theorem Gathers.of_sameReach (same : SameReach document document' start) {schema last : Json}
    (visits : Visits document start schema) (gathers : Gathers document' schema last) :
    Gathers document schema last ∧ Visits document start last := by
  induction gathers with
  | here => exact ⟨.here _, visits⟩
  | reference ref here _ ih =>
    have reaches := visits.reaches ref
    rw [same _ reaches] at here
    obtain ⟨rest, visits⟩ := ih (reaches.visits here)
    exact ⟨.reference ref here rest, visits⟩
  | part ref mem _ ih =>
    obtain ⟨rest, visits⟩ := ih (visits.sub (.part mem))
    exact ⟨.part ref mem rest, visits⟩

theorem Owns.of_sameReach (same : SameReach document document' start) {schema property : Json}
    (visits : Visits document start schema) (owns : Owns document' schema property) :
    Owns document schema property ∧ Visits document start property := by
  obtain ⟨last, name, gathers, ref, mem⟩ := owns
  obtain ⟨gathers, visits⟩ := gathers.of_sameReach same visits
  exact ⟨⟨last, name, gathers, ref, mem⟩, visits.sub (.property mem)⟩

theorem Below.of_sameReach (same : SameReach document document' start) {schema next : Json}
    (visits : Visits document start schema) (below : Below document' schema next) :
    Below document schema next ∧ Visits document start next := by
  cases below with
  | inner form => exact ⟨.inner form, visits.sub (.inner form)⟩
  | property form owns =>
    obtain ⟨owns, visits⟩ := owns.of_sameReach same visits
    exact ⟨.property form owns, visits⟩

theorem Enters.of_sameReach (same : SameReach document document' start) {reference : String}
    {schema : Json} (reaches : Reaches document start reference)
    (enters : Enters document' reference schema) :
    Enters document reference schema ∧ Visits document start schema := by
  induction enters with
  | target here kind =>
    rw [same _ reaches] at here
    exact ⟨.target here kind, reaches.visits here⟩
  | property here kind owns =>
    rw [same _ reaches] at here
    obtain ⟨owns, visits⟩ := owns.of_sameReach same (reaches.visits here)
    exact ⟨.property here kind owns, visits⟩
  | further _ step ih =>
    obtain ⟨enters, visits⟩ := ih
    obtain ⟨step, visits⟩ := step.of_sameReach same visits
    exact ⟨.further enters step, visits⟩

theorem Leads.of_sameReach (same : SameReach document document' start) {reference next : String}
    (reaches : Reaches document start reference) (leads : Leads document' reference next) :
    Leads document reference next ∧ Reaches document start next := by
  obtain ⟨schema, wrap, enters, form⟩ := leads
  obtain ⟨enters, visits⟩ := enters.of_sameReach same reaches
  exact ⟨⟨schema, wrap, enters, form⟩, visits.reaches (Schema.ref?_of_form_reference form)⟩

/-- All that is led to is reached. -/
theorem reaches_of_leads {reference : String}
    (leads : Relation.ReflTransGen (Leads document) start reference) :
    Reaches document start reference :=
  (reflTransGen_of_steps (P := Reaches document start)
    (fun _ _ => Leads.of_sameReach fun _ _ => rfl) .start leads).2

/-- A reference is on no cycle if nothing that it reaches refers to it. -/
theorem not_cyclic_of_closed {references : List String}
    (closed : ClosedUnderRefs document references) (first : start ∈ references)
    (unmentioned : ∀ reference ∈ references, ∀ target ∈ lookup? document reference,
      ∀ v ∈ target.values, Schema.ref? v ≠ some start) :
    ¬Relation.TransGen (Leads document) start start := by
  intro cycle
  obtain ⟨last, chain, schema, wrap, enters, form⟩ := Relation.TransGen.tail'_iff.mp cycle
  obtain ⟨-, reference, target, reaches, here, subs⟩ :=
    enters.of_sameReach (fun _ _ => rfl) (reaches_of_leads chain)
  exact unmentioned reference (reaches.mem_of_closed closed first) target here schema
    (values_subset_of_subs subs (Json.mem_values_self schema)) (Schema.ref?_of_form_reference form)

/-! ## Runs -/

theorem cycleEnd_eq_of_sameReach (same : SameReach document document' start)
    {reference place current : String} {fuel : Nat} {seen : List String}
    (reaches : Reaches document start current) :
    cycleEnd document' reference place fuel seen current =
      cycleEnd document reference place fuel seen current := by
  induction fuel generalizing seen current with
  | zero => rfl
  | succ fuel ih =>
    rw [cycleEnd, cycleEnd, follow, follow, same current reaches]
    cases here : lookup? document current with
    | none => rfl
    | some target =>
      simp only [bind, Except.bind]
      cases ref : Schema.ref? target with
      | none => rfl
      | some next =>
        have further : Reaches document start next := (reaches.visits here).reaches ref
        simp only [ih further]

/-- Where a cycle ends does not depend on how many values the document has besides. -/
theorem cycleEnd_transfer (same : SameReach document document' start)
    {reference place : String} (reaches : Reaches document start reference) :
    cycleEnd document' reference place (document'.size + 2) [] reference =
      cycleEnd document reference place (document.size + 2) [] reference := by
  have fuel : document'.size + 2 + document.size = document.size + 2 + document'.size := by omega
  calc cycleEnd document' reference place (document'.size + 2) [] reference
    _ = cycleEnd document' reference place (document'.size + 2 + document.size) [] reference :=
      (cycleEnd_add fun _ => cycleEnd_ne_endless).symm
    _ = cycleEnd document reference place (document.size + 2 + document'.size) [] reference := by
      rw [fuel, cycleEnd_eq_of_sameReach same reaches]
    _ = cycleEnd document reference place (document.size + 2) [] reference :=
      cycleEnd_add fun _ => cycleEnd_ne_endless

/-- The call is about what is visited from the first reference. -/
def Call.Within (document : Json) (start : String) : Call → Prop
  | .reference asked _ => Reaches document start asked
  | .schema value _ _ => Visits document start value
  | .enum .. => True
  | .object _ value _ => Visits document start value
  | .gather _ value _ _ => Visits document start value
  | .parts _ list _ _ => ∀ part ∈ list, Visits document start part.1
  | .members _ _ list _ _ => ∀ member ∈ list, Visits document start member.2

/-- A run is also one of a document that has the same within its reach. -/
theorem Run.transfer (same : SameReach document document' start) {n : Nat} {c : Call}
    {r r' : Resolver} {o : Except Failure c.Answer} (run : Run document n c r o r')
    (within : c.Within document start) : Run document' n c r o r' := by
  induction run with
  | endless deep => exact .endless deep
  | known known => exact .known known
  | lost new lost => exact .lost new (same _ within ▸ lost)
  | closed new here met close =>
    exact .closed new (same _ within ▸ here) met (cycleEnd_transfer same within ▸ close)
  | unclosed new here met close =>
    exact .unclosed new (same _ within ▸ here) met (cycleEnd_transfer same within ▸ close)
  | madeEnum new here free kind _ ih =>
    exact .madeEnum new (same _ within ▸ here) free kind (ih trivial)
  | madeObject new here free kind _ ih =>
    exact .madeObject new (same _ within ▸ here) free kind (ih (within.visits here))
  | madeOther new here free kind _ ih =>
    exact .madeOther new (same _ within ▸ here) free kind (ih (within.visits here))
  | asked form _ ih => exact .asked form (ih (within.reaches (Schema.ref?_of_form_reference form)))
  | inner form _ ih => exact .inner form (ih (within.sub (.inner form)))
  | inlineObject form _ ih => exact .inlineObject form (ih within)
  | inlineEnum form _ ih => exact .inlineEnum form (ih trivial)
  | plain form => exact .plain form
  | enum values_eq => exact .enum values_eq
  | noEnum none => exact .noEnum none
  | object _ ih => exact .object (ih within)
  | noObject _ ih => exact .noObject (ih within)
  | seen ref old => exact .seen ref old
  | lostPart ref new lost => exact .lostPart ref new (same _ (within.reaches ref) ▸ lost)
  | followed ref new here _ ih =>
    have reaches := within.reaches ref
    exact .followed ref new (same _ reaches ▸ here) (ih (reaches.visits here))
  | own ref _ _ first second =>
    refine .own ref (first fun part mem => ?_) (second fun member mem => within.sub (.property mem))
    exact within.sub (.part (List.fst_mem_of_mem_zipIdx mem))
  | failedParts ref _ ih =>
    refine .failedParts ref (ih fun part mem => ?_)
    exact within.sub (.part (List.fst_mem_of_mem_zipIdx mem))
  | noParts => exact .noParts
  | part _ _ first second =>
    exact .part (first (within _ List.mem_cons_self))
      (second fun part mem => within part (List.mem_cons_of_mem _ mem))
  | failedPart _ ih => exact .failedPart (ih (within _ List.mem_cons_self))
  | noMembers => exact .noMembers
  | member _ _ first second =>
    exact .member (first (within _ List.mem_cons_self))
      (second fun member mem => within member (List.mem_cons_of_mem _ mem))
  | failedMember _ ih => exact .failedMember (ih (within _ List.mem_cons_self))

/-- A document that has the same within reach computes the same, at every bound. -/
theorem outcome_resolveRef_transfer (same : SameReach document document' start) (n : Nat)
    (place : String) (r : Resolver) :
    outcome (resolveRef document' n start place) r =
      outcome (resolveRef document n start place) r :=
  Run.compute_run (c := .reference start place)
    ((Run.run_compute document n (.reference start place) r).transfer same .start)

end Api
end Scaffold

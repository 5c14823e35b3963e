/-
When named schemas can be resolved. A schema is resolvable, given the types of some references, if
the walk through it ends and finds what it refers to; references that can be made out of each other
are consistent. If every cycle of references closes on an object, consistent references are resolved
without a failure (`ensures_ofName_of_consistent`).
-/
import Scaffold.Proofs.Api.Cycles
import Scaffold.Proofs.Api.Termination

namespace Scaffold
namespace Api

open Resolver Resolve Json.Pointer

variable {document : Json} {given given' : String → Prop}

/-! ## Resolvable schemas -/

/-- All references among the parts that are gathered for a schema lead somewhere. -/
def Whole (document schema : Json) : Prop :=
  ∀ last reference, Gathers document schema last → Schema.ref? last = some reference →
    ∃ target, lookup? document reference = some target

/-- The type of a schema can be resolved, given those of some references. Every way down from it
ends, since this is an induction. -/
inductive Resolvable (document : Json) (given : String → Prop) : Json → Prop where
  | mk {schema : Json}
      (asks : ∀ reference wrap, Schema.form schema = .reference reference wrap → given reference)
      (whole : ∀ nullable, Schema.form schema = .object nullable → Whole document schema)
      (further : ∀ next, Below document schema next → Resolvable document given next) :
      Resolvable document given schema

/-- The properties of a schema can be gathered. -/
structure Collectable (document : Json) (given : String → Prop) (schema : Json) : Prop where
  whole : Whole document schema
  owned : ∀ property, Owns document schema property → Resolvable document given property

/-- The definition of a reference can be made. -/
def Makeable (document : Json) (given : String → Prop) (reference : String) : Prop :=
  ∃ target, lookup? document reference = some target ∧
    (Schema.kind target = .object → Collectable document given target) ∧
    (Schema.kind target = .other → Resolvable document given target)

/-- The references can be made out of one another. -/
def Consistent (document : Json) (given : String → Prop) : Prop :=
  ∀ reference, given reference → Makeable document given reference

/-- The references to all named schemas are among some. -/
def HasNames (document : Json) (given : String → Prop) : Prop :=
  ∀ name schema, (name, schema) ∈ namedSchemas document →
    given (child (schemasPrefix document) name)

namespace Resolvable

variable {schema : Json}

theorem asks (h : Resolvable document given schema) {reference : String} {wrap : Schema.Wrap}
    (form : Schema.form schema = .reference reference wrap) : given reference := by
  obtain ⟨asks, _, _⟩ := h
  exact asks reference wrap form

theorem further (h : Resolvable document given schema) {next : Json}
    (step : Below document schema next) : Resolvable document given next := by
  obtain ⟨_, _, further⟩ := h
  exact further next step

theorem collectable (h : Resolvable document given schema) {nullable : Bool}
    (form : Schema.form schema = .object nullable) : Collectable document given schema := by
  obtain ⟨_, whole, further⟩ := h
  exact ⟨whole nullable form, fun property owns => further property (.property form owns)⟩

theorem mono (h : Resolvable document given schema)
    (more : ∀ reference, given reference → given' reference) :
    Resolvable document given' schema := by
  induction h with
  | mk asks whole _ ih => exact .mk (fun reference wrap form => more _ (asks _ wrap form)) whole ih

theorem not_below_itself (h : Resolvable document given schema) :
    ¬Relation.TransGen (Below document) schema schema := by
  induction h with
  | mk _ _ _ ih =>
    intro back
    obtain ⟨next, step, rest⟩ := Relation.TransGen.head'_iff.mp back
    exact ih next step (.tail' rest step)

end Resolvable

namespace Collectable

variable {schema : Json}

theorem mono (h : Collectable document given schema)
    (more : ∀ reference, given reference → given' reference) :
    Collectable document given' schema :=
  ⟨h.whole, fun property owns => (h.owned property owns).mono more⟩

theorem of_gathers {middle : Json} (h : Collectable document given schema)
    (gathers : Gathers document schema middle) : Collectable document given middle where
  whole last reference rest ref := h.whole last reference (gathers.trans rest) ref
  owned property owns := h.owned property (owns.of_gathers gathers)

end Collectable

theorem Makeable.mono {reference : String} (h : Makeable document given reference)
    (more : ∀ reference, given reference → given' reference) :
    Makeable document given' reference := by
  obtain ⟨target, here, object, other⟩ := h
  exact ⟨target, here, fun kind => (object kind).mono more, fun kind => (other kind).mono more⟩

/-! ## Consistent references are resolved -/

namespace Consistent

theorem enters (all : Consistent document given) {reference : String} {schema : Json}
    (asked : given reference) (enters : Enters document reference schema) :
    Resolvable document given schema := by
  obtain ⟨target, found, object, other⟩ := all reference asked
  induction enters with
  | target here kind =>
    rw [found] at here
    rw [← Option.some.inj here] at kind ⊢
    exact other kind
  | property here kind owns =>
    rw [found] at here
    rw [← Option.some.inj here] at kind owns
    exact (object kind).owned _ owns
  | further _ step ih => exact ih.further step

theorem leads (all : Consistent document given) (reference next : String)
    (asked : given reference) (leads : Leads document reference next) : given next := by
  obtain ⟨schema, wrap, enters, form⟩ := leads
  exact (all.enters asked enters).asks form

def zone (all : Consistent document given) : Zone document :=
  .ofLeads given all.leads fun _ _ asked enters _ => (all.enters asked enters).not_below_itself

end Consistent

/-- What a call is about can be resolved. -/
def Call.Fits (document : Json) (given : String → Prop) : Call → Prop
  | .reference asked _ => given asked
  | .schema value _ _ => Resolvable document given value
  | .enum _ value _ => Schema.isEnum value = true
  | .object _ value _ => Collectable document given value
  | .gather _ value _ _ => Collectable document given value
  | .parts _ list _ _ => ∀ part ∈ list, Collectable document given part.1
  | .members _ _ list _ _ => ∀ member ∈ list, Resolvable document given member.2

/-- What is met again while it is in progress closes on an object. -/
theorem cycleEnd_of_cyclesClose (close : CyclesClose document) {reference place : String}
    {r : Resolver} (under : (Call.reference reference place).Under document r)
    (met : reference ∈ r.inProgress) :
    ∃ last, cycleEnd document reference place (document.size + 2) [] reference = .ok last := by
  obtain ⟨last, closes⟩ := close reference (under.onCycle met)
  exact ⟨last, cycleEnd_of_closes closes (by simp) List.nodup_nil (by simp) rfl⟩

/-- Nothing that can be resolved fails, unless calls are nested too deep. -/
theorem endless_of_fits (close : CyclesClose document) (all : Consistent document given)
    {n : Nat} {c : Call} {r r' : Resolver} {o : Except Failure c.Answer}
    (run : Run document n c r o r') (under : c.Under document r) (fits : c.Fits document given)
    {failure : Failure} (failed : o = .error failure) : failure.cause = .endless := by
  induction run with
  | known | closed | plain | enum | object | seen | noParts | noMembers => cases failed
  | endless =>
    rw [← Except.error.inj failed]
  | lost _ lost =>
    obtain ⟨target, here, _⟩ := all _ fits
    rw [lost] at here
    cases here
  | unclosed _ _ met found =>
    obtain ⟨last, closed⟩ := cycleEnd_of_cyclesClose close under met
    rw [found] at closed
    cases closed
  | madeEnum _ _ _ kind _ ih => exact ih trivial (Schema.isEnum_of_kind_enum kind) failed
  | madeObject _ here _ kind _ ih =>
    obtain ⟨target, found, object, _⟩ := all _ fits
    rw [here] at found
    rw [← Option.some.inj found] at object
    exact ih (under.object here kind rfl) (object kind) failed
  | madeOther _ here _ kind _ ih =>
    obtain ⟨target, found, _, other⟩ := all _ fits
    rw [here] at found
    rw [← Option.some.inj found] at other
    exact ih (under.target here kind rfl) (other kind) failed
  | asked form _ ih => exact ih (under.asked form) (fits.asks form) (eq_error_of_map failed)
  | inner form _ ih =>
    exact ih (under.inner form) (fits.further (.inner form)) (eq_error_of_map failed)
  | inlineObject form _ ih =>
    exact ih (Call.Under.of_inProgress_eq (under.inline form) rfl) (fits.collectable form)
      (eq_error_of_map failed)
  | @inlineEnum _ schema _ _ _ _ _ _ form _ ih =>
    have spec := Schema.form_spec schema
    rw [form] at spec
    exact ih trivial spec.2 (eq_error_of_map failed)
  | noEnum none =>
    have isEnum : Schema.isEnum _ = true := fits
    rw [Schema.isEnum, none] at isEnum
    cases isEnum
  | noObject _ ih => exact ih under fits (congrArg Except.error (Except.error.inj failed))
  | lostPart ref _ lost =>
    obtain ⟨target, here⟩ := fits.whole _ _ (.here _) ref
    rw [lost] at here
    cases here
  | followed ref _ here _ ih =>
    exact ih (under.followed ref here) (fits.of_gathers (.reference ref here (.here _))) failed
  | own ref parts _ first second =>
    refine second (Call.Under.of_inProgress_eq (under.members ref) (run_inProgress parts)) ?_ failed
    exact fun member mem => fits.owned member.2 ⟨_, member.1, .here _, ref, mem⟩
  | failedParts ref _ ih =>
    refine ih (under.parts ref) (fun part mem => ?_) failed
    exact fits.of_gathers (.part ref (List.fst_mem_of_mem_zipIdx mem) (.here _))
  | part run _ _ second =>
    exact second (Call.Under.of_inProgress_eq under.otherParts (run_inProgress run))
      (fun part mem => fits part (List.mem_cons_of_mem _ mem)) failed
  | failedPart _ ih =>
    exact ih (under _ List.mem_cons_self) (fits _ List.mem_cons_self)
      (congrArg Except.error (Except.error.inj failed))
  | member run _ _ second =>
    exact second (Call.Under.of_inProgress_eq under.otherMembers (run_inProgress run))
      (fun member mem => fits member (List.mem_cons_of_mem _ mem)) failed
  | failedMember _ ih =>
    exact ih (under _ List.mem_cons_self) (fits _ List.mem_cons_self)
      (congrArg Except.error (Except.error.inj failed))

/-- Between calls, a named schema that can be made is resolved. -/
theorem ensures_ofName_of_consistent (close : CyclesClose document)
    (all : Consistent document given) {name : String} {schema : Json}
    (mem : (name, schema) ∈ namedSchemas document)
    (asked : given (child (schemasPrefix document) name)) :
    Ensures Idle (fun _ _ => False) (fun _ => True) (ofName document name) fun _ _ => True := by
  intro r idle _
  have run := Run.run_compute document (nestingBound document)
    (.reference (child (schemasPrefix document) name) (schemasPrefix document)) r
  have nothing (q : String) : q ∉ r.inProgress := by
    rw [show r.inProgress = [] from idle]
    exact List.not_mem_nil
  have enough : (Call.reference (child (schemasPrefix document) name)
      (schemasPrefix document)).Enough all.zone _ (nestingBound document) r :=
    enough_reference asked (Nat.le_refl _)
  have complete := run_ends all.zone run enough
  have endless {failure : Failure} : _ → failure.cause = .endless := endless_of_fits close all run
    ⟨⟨name, schema, mem, .refl⟩, fun q met => absurd met (nothing q)⟩ asked
  change EndsIn _ _ _ r (outcome (Call.compute document _ (.reference _ _)) r)
  generalize outcome (Call.compute document _ (.reference _ _)) r = o at run complete endless ⊢
  obtain ⟨failure | type, r'⟩ := o
  · exact complete failure rfl (endless rfl)
  · exact ⟨(run_inProgress run).trans idle, run_grows run, trivial⟩

/-- Named schemas that can be made out of one another are resolved, in any order. -/
theorem allNamed_of_consistent (close : CyclesClose document)
    (all : Consistent document given) (names : HasNames document given) :
    ∃ r, outcome (allNamed document) .start = (.ok ⟨⟩, r) := by
  have ends := ensures_allNamed (fun {name schema} mem =>
    ensures_ofName_of_consistent close all mem (names name schema mem)) .start rfl trivial
  generalize outcome (allNamed document) .start = o at ends ⊢
  obtain ⟨failure | ⟨⟩, r⟩ := o
  · exact ends.elim
  · exact ⟨r, rfl⟩

end Api
end Scaffold

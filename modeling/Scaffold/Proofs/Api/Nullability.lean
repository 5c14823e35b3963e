/-
Whether a property that refers to a schema can be null. The types that are known for references inherit
the marks of what they stand for (`Inherited`), whatever was resolved before. So a name for a schema makes
no difference, unless the schema is an enum or an object: these are resolved without their marks
(`isNullable_named`, `null_lost_by_name`).
-/
import Scaffold.Proofs.Api.Consistency
import Scaffold.Proofs.Api.Listing
import Scaffold.Proofs.Api.Marks
import Scaffold.Proofs.Api.Reach

namespace Scaffold
namespace Api

open Resolver Resolve Json.Pointer

variable {document document' : Json}

/-! ## What is remembered -/

/-- The type has the marks that a schema comes to, and those of a known type that it asks for. -/
def PassedOn (r : Resolver) (schema : Json) (type : TypeExpr) : Prop :=
  Tail schema type.isNullable none ∨ ∃ marks next last, Tail schema marks (some next) ∧
    r.resolved.get? next = some last ∧ type.isNullable = (marks || last.isNullable)

/-- A type that is kept has no mark if it has a definition of its own, and otherwise those that are
passed on to it, unless its reference leads back to itself. -/
structure Inherits (document : Json) (r : Resolver) (reference : String) (target : Json)
    (type : TypeExpr) : Prop where
  named : Schema.kind target ≠ .other → type.isNullable = false
  other : Schema.kind target = .other → ¬Relation.TransGen (Leads document) reference reference →
    PassedOn r target type

/-- All types that are known are kept so. -/
def Inherited (document : Json) (r : Resolver) : Prop :=
  ∀ reference target type, r.resolved.get? reference = some type →
    lookup? document reference = some target → Inherits document r reference target type

theorem PassedOn.mono {r r' : Resolver} {schema : Json} {type : TypeExpr} (h : PassedOn r schema type)
    (more : ∀ q t, r.resolved.get? q = some t → r'.resolved.get? q = some t) :
    PassedOn r' schema type := by
  obtain tail | ⟨marks, next, last, tail, found, marked⟩ := h
  · exact .inl tail
  · exact .inr ⟨marks, next, last, tail, more _ _ found, marked⟩

/-- A type that is given is known then, unless its definition is still being made. -/
theorem resolved_of_run {n : Nat} {reference place : String} {type : TypeExpr} {r r' : Resolver}
    (run : Run document n (.reference reference place) r (.ok type) r')
    (free : reference ∉ r.inProgress) : r'.resolved.get? reference = some type := by
  generalize same : Except.ok type = o at run
  cases run with
  | endless | lost | unclosed => cases same
  | known known =>
    cases same
    exact known
  | closed _ _ met => exact absurd met free
  | madeEnum | madeObject | madeOther =>
    subst same
    simp [settle, remember, KeyMap.get?_insert]

theorem Inherits.of_named {r : Resolver} {reference : String} {target : Json} {type : TypeExpr}
    (kind : Schema.kind target ≠ .other) (unmarked : type.isNullable = false) :
    Inherits document r reference target type :=
  ⟨fun _ => unmarked, fun other => absurd other kind⟩

theorem Inherited.settle {r : Resolver} {reference : String} {target : Json}
    {o : Except Failure TypeExpr} (inherited : Inherited document r)
    (fresh : r.resolved.get? reference = none) (here : lookup? document reference = some target)
    (inherits : ∀ type, o = .ok type → Inherits document r reference target type) :
    Inherited document (settle r reference o) := by
  have more (q : String) (t : TypeExpr) (found : r.resolved.get? q = some t) :
      (Resolve.settle r reference o).resolved.get? q = some t := by
    rw [get?_settle_of_ne o ?_, found]
    rintro rfl
    rw [fresh] at found
    cases found
  intro q target' type found there
  have old : Inherits document r q target' type := by
    by_cases same : q = reference
    · subst same
      cases o with
      | error => exact inherited q target' type found there
      | ok made =>
        simp only [Resolve.settle, remember, KeyMap.get?_insert, if_true] at found
        cases found
        rw [here] at there
        cases there
        exact inherits _ rfl
    · rw [get?_settle_of_ne o same] at found
      exact inherited q target' type found there
  exact ⟨old.named, fun kind acyclic => (old.other kind acyclic).mono more⟩

/-- What a reference leads to on no way back is not in progress while its type is made. -/
theorem Moment.Stacked.free {n : Nat} {reference place next : String} {r : Resolver}
    (stacked : Moment.Stacked document ⟨n, .reference reference place, r⟩)
    (acyclic : ¬Relation.TransGen (Leads document) reference reference)
    (leads : Relation.ReflTransGen (Leads document) reference next) : next ∉ r.inProgress := by
  intro met
  have back : Relation.TransGen (Leads document) next reference := stacked next met reference rfl
  exact acyclic (.trans_right leads back)

theorem Inherited.of_resolved_eq {r r' : Resolver} (inherited : Inherited document r)
    (same : r'.resolved = r.resolved) : Inherited document r' := by
  intro reference target type found here
  have kept := inherited reference target type (same ▸ found) here
  exact ⟨kept.named, fun kind acyclic => (kept.other kind acyclic).mono fun _ _ found => same ▸ found⟩

theorem passedOn_of_run {n : Nat} {schema : Json} {context place : String} {type : TypeExpr}
    {r r' : Resolver} (run : Run document n (.schema schema context place) r (.ok type) r')
    (free : ∀ marks next, Tail schema marks (some next) → next ∉ r.inProgress) :
    PassedOn r' schema type := by
  obtain tail | ⟨marks, next, place', last, tail, asked, marked⟩ := tail_of_run run
  · exact .inl tail
  · exact .inr ⟨marks, next, last, tail, resolved_of_run asked (free marks next tail), marked⟩

/-- Runs keep what is inherited, if what is in progress leads to what they ask for. -/
theorem run_inherited {n : Nat} {c : Call} {r r' : Resolver} {o : Except Failure c.Answer}
    (run : Run document n c r o r') (stacked : Moment.Stacked document ⟨n, c, r⟩)
    (inherited : Inherited document r) : Inherited document r' := by
  induction run with
  | endless | known | lost | unclosed | plain | noEnum | seen | lostPart | noParts | noMembers =>
    exact inherited
  | closed | enum => exact inherited.of_resolved_eq rfl
  | madeEnum new here free kind run ih =>
    have fresh := (resolved_eq_of_run run (.inr List.mem_cons_self)).trans new
    have made := ih (stacked.makes (.enum new here free kind)) (inherited.of_resolved_eq rfl)
    refine made.settle fresh here fun type ok => .of_named (by simp [kind]) ?_
    exact isNullable_of_enum (ok ▸ run)
  | madeObject new here free kind run ih =>
    have fresh := (resolved_eq_of_run run (.inr List.mem_cons_self)).trans new
    have made := ih (stacked.makes (.object new here free kind)) (inherited.of_resolved_eq rfl)
    refine made.settle fresh here fun type ok => .of_named (by simp [kind]) ?_
    exact isNullable_of_object (ok ▸ run)
  | @madeOther _ reference _ _ _ _ _ new here free kind run ih =>
    have fresh := (resolved_eq_of_run run (.inr List.mem_cons_self)).trans new
    have made := ih (stacked.makes (.other new here free kind)) (inherited.of_resolved_eq rfl)
    refine made.settle fresh here fun type ok => ⟨fun named => absurd kind named, fun _ acyclic => ?_⟩
    -- What an alias asks for was kept before it, as it is not in progress: that would be a way back.
    refine passedOn_of_run (ok ▸ run) fun marks next tail met => ?_
    have leads : Leads document reference next := Links.leads ⟨_, marks, here, kind, tail⟩
    rcases List.mem_cons.mp met with rfl | old
    · exact acyclic (.single leads)
    · exact stacked.free acyclic (.single leads) old
  | asked form _ ih => exact ih (stacked.makes (.asked form)) inherited
  | inner form _ ih => exact ih (stacked.makes (.inner form)) inherited
  | inlineObject form _ ih =>
    exact ih (stacked.makes (.inlineObject form)) (inherited.of_resolved_eq rfl)
  | inlineEnum form _ ih => exact ih (stacked.makes (.inlineEnum form)) (inherited.of_resolved_eq rfl)
  | object _ ih => exact (ih (stacked.makes .gather) inherited).of_resolved_eq rfl
  | noObject _ ih => exact ih (stacked.makes .gather) inherited
  | followed ref new here _ ih => exact ih (stacked.makes (.followed ref new here)) inherited
  | own ref run _ first second =>
    exact second (stacked.makes (.members ref run)) (first (stacked.makes (.parts ref)) inherited)
  | failedParts ref _ ih => exact ih (stacked.makes (.parts ref)) inherited
  | part run _ first second =>
    exact second (stacked.makes (.otherParts run)) (first (stacked.makes .part) inherited)
  | failedPart _ ih => exact ih (stacked.makes .part) inherited
  | member run _ first second =>
    exact second (stacked.makes (.otherMembers run)) (first (stacked.makes .member) inherited)
  | failedMember _ ih => exact ih (stacked.makes .member) inherited

theorem Paused.inherited {r : Resolver} (h : Paused document r) : Inherited document r := by
  induction h with
  | start => exact fun _ _ _ found => by cases found
  | claimed _ _ _ ih | offered _ _ _ _ ih => exact ih.of_resolved_eq rfl
  | ran before run ih =>
    exact run_inherited run (Moment.stacked_of_inProgress before.inProgress_eq_nil) ih

theorem Moment.Makes.inherited {m m' : Moment} (makes : Makes document m m')
    (stacked : m.Stacked document) (inherited : Inherited document m.state) :
    Inherited document m'.state := by
  cases makes with
  | enum | object | other | inlineObject | inlineEnum => exact inherited.of_resolved_eq rfl
  | asked | inner | gather | followed | parts | part | member => exact inherited
  | members ref run => exact run_inherited run (stacked.makes (.parts ref)) inherited
  | otherParts run => exact run_inherited run (stacked.makes .part) inherited
  | otherMembers run => exact run_inherited run (stacked.makes .member) inherited

theorem Arises.inherited {m : Moment} (arises : Arises document m) : Inherited document m.state := by
  obtain ⟨first, paused, chain⟩ := arises
  induction chain with
  | refl => exact paused.inherited
  | tail chain makes ih =>
    exact makes.inherited (Arises.stacked ⟨first, paused, chain⟩) ih

/-! ## Naming a schema -/

/-- Another document and another state agree on all that the type of a reference is passed on from. They
do where the target stands in place of a reference, since it does not lead back to that place. -/
structure SameBehind (document document' : Json) (r r' : Resolver) (reference : String) : Prop where
  lookup : ∀ q, Relation.TransGen (Links document) reference q →
    lookup? document' q = lookup? document q
  nullable : ∀ q, Relation.TransGen (Links document) reference q → r'.nullable? q = r.nullable? q
  inProgress : ∀ q, Relation.TransGen (Links document) reference q →
    q ∈ r'.inProgress → q ∈ r.inProgress

theorem SameBehind.links {r r' : Resolver} {reference next last : String}
    (same : SameBehind document document' r r' reference)
    (first : Relation.TransGen (Links document) reference next)
    (chain : Relation.ReflTransGen (Links document') next last) :
    Relation.TransGen (Links document) reference last := by
  induction chain with
  | refl => exact first
  | tail _ step ih =>
    obtain ⟨target, marks, here, kind, tail⟩ := step
    rw [same.lookup _ ih] at here
    exact ih.tail ⟨target, marks, here, kind, tail⟩

/-- In one state, it is enough that the documents have the same wherever the reference reaches. -/
theorem SameBehind.of_sameReach {reference : String} (same : SameReach document document' reference)
    (r : Resolver) : SameBehind document document' r r reference where
  lookup q chain := same q (reaches_of_leads (leads_of_links chain).to_reflTransGen)
  nullable _ _ := rfl
  inProgress _ _ met := met

section

variable {n : Nat} {target : Json} {place reference : String} {type : TypeExpr} {r after : Resolver}

theorem Moment.Stacked.free_behind
    (stacked : Moment.Stacked document ⟨n, .reference reference place, r⟩)
    (acyclic : ¬Relation.TransGen (Leads document) reference reference) {q : String}
    (chain : Relation.TransGen (Links document) reference q) : q ∉ r.inProgress :=
  stacked.free acyclic (leads_of_links chain).to_reflTransGen

theorem isNullable_of_named (inherited : Inherited document r)
    (here : lookup? document reference = some target) (kind : Schema.kind target ≠ .other)
    (run : Run document n (.reference reference place) r (.ok type) after) :
    type.isNullable = false := by
  generalize ok : Except.ok type = o at run
  cases run with
  | endless | lost | unclosed => cases ok
  | known known =>
    cases ok
    exact (inherited _ _ _ known here).named kind
  | closed =>
    cases ok
    rfl
  | madeEnum _ _ _ _ made =>
    subst ok
    exact isNullable_of_enum made
  | madeObject _ _ _ _ made =>
    subst ok
    exact isNullable_of_object made
  | madeOther _ here' _ kind' =>
    rw [here] at here'
    cases here'
    exact absurd kind' kind

/-- A reference to an alias has the marks that the alias comes to, whether they are remembered or not. -/
theorem marked_of_reference (stacked : Moment.Stacked document ⟨n, .reference reference place, r⟩)
    (inherited : Inherited document r) (here : lookup? document reference = some target)
    (kind : Schema.kind target = .other)
    (acyclic : ¬Relation.TransGen (Leads document) reference reference)
    (run : Run document n (.reference reference place) r (.ok type) after) :
    Marked document r.nullable? [reference] target type.isNullable := by
  generalize ok : Except.ok type = o at run
  cases run with
  | endless | lost | unclosed => cases ok
  | known known =>
    cases ok
    obtain tail | ⟨marks, next, last, tail, found, marked⟩ :=
      (inherited _ _ _ known here).other kind acyclic
    · exact .inl tail
    · exact .inr ⟨marks, next, _, tail, .known (nullable?_of_known found), marked⟩
  | closed _ _ met => exact absurd (stacked _ met _ rfl) acyclic
  | madeEnum _ here' _ kind' | madeObject _ here' _ kind' =>
    rw [here] at here'
    cases here'
    rw [kind] at kind'
    cases kind'
  | madeOther _ here' _ _ made =>
    subst ok
    rw [here] at here'
    cases here'
    refine marked_of_run made rfl rfl fun marks next tail q met chain => ?_
    have first : Relation.TransGen (Links document) reference next :=
      .single ⟨target, marks, here, kind, tail⟩
    exact stacked.free_behind acyclic (.trans_left first chain) met

end

/-- The type that a reference is given can be null just if it is that of an alias, and what the alias
stands for can be null where it is written in its place. -/
theorem isNullable_of_reference {n n' : Nat} {target : Json}
    {context' place place' reference : String} {type type' : TypeExpr}
    {r r' after after' : Resolver}
    (stacked : Moment.Stacked document ⟨n, .reference reference place, r⟩)
    (inherited : Inherited document r) (here : lookup? document reference = some target)
    (acyclic : ¬Relation.TransGen (Leads document) reference reference)
    (same : SameBehind document document' r r' reference)
    (named : Run document n (.reference reference place) r (.ok type) after)
    (inline : Run document' n' (.schema target context' place') r' (.ok type') after') :
    type.isNullable = (decide (Schema.kind target = .other) && type'.isNullable) := by
  by_cases kind : Schema.kind target = .other
  · have behind {marks : Bool} {next : String} (tail : Tail target marks (some next)) :
        Relation.TransGen (Links document) reference next := .single ⟨target, marks, here, kind, tail⟩
    have marked := marked_of_reference stacked inherited here kind acyclic named
    have marked' : Marked document' r'.nullable? [] target type'.isNullable := by
      refine marked_of_run inline rfl rfl fun marks next tail q met chain => ?_
      have chain := same.links (behind tail) chain
      exact stacked.free_behind acyclic chain (same.inProgress q chain met)
    -- The chain does not come back to the reference, so it does not matter that this was gone through.
    have equal := marked.unique marked' fun marks next tail q chain => by
      have chain : Relation.TransGen (Links document) reference q := .trans_left (behind tail) chain
      refine ⟨same.lookup q chain, same.nullable q chain, fun met => ?_, nofun⟩
      rw [List.mem_singleton.mp met] at chain
      exact absurd (leads_of_links chain) acyclic
    simp [kind, equal]
  · have unmarked := isNullable_of_named inherited here kind named
    simp [kind, unmarked]

/-- A property that refers to a schema on no cycle can be null if it is marked so itself, or if the
schema is an alias and can be null where it is written in place of the reference. So it makes no
difference that the schema has a name, unless this gives it a definition and takes its marks. -/
theorem isNullable_named {n n' : Nat} {property target : Json}
    {context context' place place' reference : String} {type type' : TypeExpr}
    {r r' after after' : Resolver}
    (arises : Arises document ⟨n, .schema property context place, r⟩)
    (ref : Schema.ref? property = some reference) (here : lookup? document reference = some target)
    (acyclic : ¬Relation.TransGen (Leads document) reference reference)
    (same : SameBehind document document' r r' reference)
    (named : outcome (schemaType document n property context place) r = (.ok type, after))
    (inline : outcome (schemaType document' n' target context' place') r' = (.ok type', after')) :
    (type.isNullable = true ↔
      Schema.isNullable property = true ∨
        Schema.kind target = .other ∧ type'.isNullable = true) ∧
    (Schema.isNullable property = false →
      (type.isNullable = type'.isNullable ↔
        Schema.kind target = .other ∨ type'.isNullable = false)) := by
  have run := Run.run_compute document n (.schema property context place) r
  have run' := Run.run_compute document' n' (.schema target context' place') r'
  simp only [Call.compute, named, inline] at run run'
  have tail : Tail property _ (some reference) := .reference ref
  have stacked := arises.stacked
  obtain tail' | ⟨marks, next, place', last, tail', asked, marked⟩ := tail_of_run run
  · cases (tail.unique tail').2
  · obtain ⟨rfl, ends⟩ := tail.unique tail'
    cases ends
    have asking : Moment.Stacked document ⟨n, .reference reference place', r⟩ :=
      fun q met next asks => stacked q met next (asks ▸ tail.asksFor rfl)
    have last_eq := isNullable_of_reference asking arises.inherited here acyclic same asked run'
    rw [marked, last_eq]
    refine ⟨by simp, fun bare => ?_⟩
    cases type'.isNullable <;> simp [bare]

/-- A pet with the given schema for its owner, where one schema is named so. -/
def petOf (owner property : Json) : Json :=
  listing [("Owner", owner), ("Person", record [("name", typeNamed "string")]),
    ("Pet", record [("owner", property)])]

def ownerPlace : String :=
  child (child "#/components/schemas/Pet" "properties") "owner"

def ownerOutcome (owner property : Json) : Except Failure TypeExpr × Resolver :=
  outcome (schemaType (petOf owner property) 9 property ("Pet" ++ Text.pascalCase "owner") ownerPlace)
    .start

theorem arises_petOf (owner property : Json) :
    Arises (petOf owner property)
      ⟨9, .schema property ("Pet" ++ Text.pascalCase "owner") ownerPlace, .start⟩ := by
  refine ⟨⟨11, .object "Pet" (record [("owner", property)]) "#/components/schemas/Pet", .start⟩,
    .start, ?_⟩
  exact .head .gather (.head (.members rfl .noParts) (.head .member .refl))

def maybePerson : Json :=
  .object [("oneOf", .array [schemaRef "Person", typeNamed "null"])]

theorem isNullable_named_maybePerson :
    ∃ type type' after after',
      ownerOutcome maybePerson (schemaRef "Owner") = (.ok type, after) ∧
      ownerOutcome maybePerson maybePerson = (.ok type', after') ∧
      (type.isNullable = true ↔ Schema.isNullable (schemaRef "Owner") = true ∨
        Schema.kind maybePerson = .other ∧ type'.isNullable = true) ∧
      (type.isNullable = type'.isNullable ↔
        Schema.kind maybePerson = .other ∨ type'.isNullable = false) ∧
      type.isNullable = true := by
  have closed : ClosedUnderRefs (petOf maybePerson (schemaRef "Owner"))
      ["#/components/schemas/Owner", "#/components/schemas/Person"] := by
    decide
  have acyclic := not_cyclic_of_closed closed List.mem_cons_self (by decide)
  have same : SameReach (petOf maybePerson (schemaRef "Owner")) (petOf maybePerson maybePerson)
      "#/components/schemas/Owner" := fun reference reaches => by
    have mem := reaches.mem_of_closed closed List.mem_cons_self
    simp only [List.mem_cons, List.not_mem_nil, or_false] at mem
    rcases mem with rfl | rfl <;> rfl
  have named : ownerOutcome maybePerson (schemaRef "Owner") =
      (.ok ((TypeExpr.reference "Person").withNullable true), _) := Prod.ext (by decide) rfl
  have inline : ownerOutcome maybePerson maybePerson =
      (.ok ((TypeExpr.reference "Person").withNullable true), _) := Prod.ext (by decide) rfl
  have result := isNullable_named (arises_petOf maybePerson (schemaRef "Owner")) rfl rfl acyclic
    (.of_sameReach same .start) named inline
  exact ⟨_, _, _, _, named, inline, result.1, result.2 rfl, rfl⟩

/-- An owner who may be missing, and has a definition of its own. -/
def missingOwner : Json :=
  .object [("type", .string "object"), ("nullable", .bool true),
    ("properties", .object [("name", typeNamed "string")])]

/-- The owner is on no cycle and can be null where it is written in place, but not by its name. -/
theorem null_lost_by_name :
    Arises (petOf missingOwner (schemaRef "Owner"))
      ⟨9, .schema (schemaRef "Owner") ("Pet" ++ Text.pascalCase "owner") ownerPlace, .start⟩ ∧
    ¬Relation.TransGen (Leads (petOf missingOwner (schemaRef "Owner")))
      "#/components/schemas/Owner" "#/components/schemas/Owner" ∧
    ∃ type type' after after',
      ownerOutcome missingOwner (schemaRef "Owner") = (.ok type, after) ∧
      ownerOutcome missingOwner missingOwner = (.ok type', after') ∧
      type.isNullable = false ∧ type'.isNullable = true := by
  have closed : ClosedUnderRefs (petOf missingOwner (schemaRef "Owner"))
      ["#/components/schemas/Owner"] := by
    decide
  have named : ownerOutcome missingOwner (schemaRef "Owner") =
      (.ok (.reference "Owner"), _) := Prod.ext (by decide) rfl
  have inline : ownerOutcome missingOwner missingOwner =
      (.ok ((TypeExpr.reference "PetOwner").withNullable true), _) := Prod.ext (by decide) rfl
  exact ⟨arises_petOf missingOwner (schemaRef "Owner"),
    not_cyclic_of_closed closed List.mem_cons_self (by decide), _, _, _, _, named, inline, rfl, rfl⟩

end Api
end Scaffold

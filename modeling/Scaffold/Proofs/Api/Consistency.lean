/-
What was resolved can be resolved. A run that gives an answer has gone through all that it was
about, though no reference is gone through twice: `run_done`. So after all named schemas were
resolved, the references that are known are consistent (`consistent_of_allNamed`).
-/
import Scaffold.Proofs.Api.Resolvable

namespace Scaffold
namespace Api

open Resolver Resolve Json.Pointer

variable {document : Json} {given given' : String → Prop}

/-! ## What is resolved is consistent -/

/-- The type of the reference is known, or its definition is being made. -/
def Known (r : Resolver) (reference : String) : Prop :=
  (∃ type, r.resolved.get? reference = some type) ∨ reference ∈ r.inProgress

theorem get?_settle_of_ne {r : Resolver} {reference made : String} (o : Except Failure TypeExpr)
    (other : reference ≠ made) :
    (settle r made o).resolved.get? reference = r.resolved.get? reference := by
  cases o with
  | error => rfl
  | ok type => simp [settle, leave, remember, KeyMap.get?_insert, Ne.symm other]

namespace Known

variable {r r' : Resolver} {reference q : String}

theorem ne (known : Known r reference) (new : r.resolved.get? q = none) (free : q ∉ r.inProgress) :
    reference ≠ q := by
  rintro rfl
  rcases known with ⟨type, found⟩ | met
  · rw [new] at found
    cases found
  · exact free met

theorem enter (known : Known r reference) (wanted place : String) :
    Known ((r.claim wanted place).enter q) reference :=
  known.imp_right (List.mem_cons_of_mem q)

theorem of_eq (known : Known r reference)
    (resolved : r'.resolved.get? reference = r.resolved.get? reference)
    (progress : r'.inProgress = r.inProgress) : Known r' reference := by
  rw [Known, resolved, progress]
  exact known

end Known

/-- The type of a reference in progress is not kept before its own definition ends, and a type that is
known stays as it is. -/
theorem resolved_eq_of_run {n : Nat} {c : Call} {r r' : Resolver} {o : Except Failure c.Answer}
    (run : Run document n c r o r') {reference : String} (known : Known r reference) :
    r'.resolved.get? reference = r.resolved.get? reference := by
  induction run with
  | endless | known | lost | unclosed | closed | plain | enum | noEnum | seen | lostPart | noParts
  | noMembers => rfl
  | madeEnum new _ free _ _ ih | madeObject new _ free _ _ ih | madeOther new _ free _ _ ih =>
    rw [get?_settle_of_ne _ (known.ne new free), ih (known.enter ..)]
    rfl
  | asked _ _ ih | inner _ _ ih | inlineObject _ _ ih | inlineEnum _ _ ih | object _ ih
  | noObject _ ih | followed _ _ _ _ ih | failedParts _ _ ih | failedPart _ ih
  | failedMember _ ih => exact ih known
  | own _ run _ first second | part run _ first second | member run _ first second =>
    exact (second (known.of_eq (first known) (run_inProgress run))).trans (first known)

theorem run_known {n : Nat} {c : Call} {r r' : Resolver} {o : Except Failure c.Answer}
    (run : Run document n c r o r') (reference : String) (known : Known r reference) :
    Known r' reference :=
  known.of_eq (resolved_eq_of_run run known) (run_inProgress run)

/-- A schema whose parts were gone through, except for references that were seen. -/
inductive Combed (document : Json) (given : String → Prop) (seen : List String) : Json → Prop where
  | reference {schema : Json} {reference : String} (ref : Schema.ref? schema = some reference)
      (old : reference ∈ seen) : Combed document given seen schema
  | own {schema : Json} (ref : Schema.ref? schema = none)
      (parts : ∀ part ∈ schema.itemsAt "allOf", Combed document given seen part)
      (properties : ∀ name property, (name, property) ∈ schema.membersAt "properties" →
        Resolvable document given property) : Combed document given seen schema

/-- What the references lead to that were seen since was gone through too. -/
def CombedSince (document : Json) (given : String → Prop) (before seen : List String) : Prop :=
  ∀ reference ∈ seen, reference ∉ before →
    ∃ target, lookup? document reference = some target ∧ Combed document given seen target

theorem Combed.mono {seen seen' : List String} {schema : Json}
    (h : Combed document given seen schema)
    (more : ∀ reference, given reference → given' reference) (later : seen ⊆ seen') :
    Combed document given' seen' schema := by
  induction h with
  | reference ref old => exact .reference ref (later old)
  | own ref _ properties ih =>
    exact .own ref ih fun name property mem => (properties name property mem).mono more

namespace CombedSince

variable {before middle seen : List String}

theorem refl (seen : List String) : CombedSince document given seen seen :=
  fun _ old new => absurd old new

theorem mono (h : CombedSince document given before seen)
    (more : ∀ reference, given reference → given' reference) :
    CombedSince document given' before seen := by
  intro reference mem new
  obtain ⟨target, here, combed⟩ := h reference mem new
  exact ⟨target, here, combed.mono more fun _ old => old⟩

theorem trans (h : CombedSince document given before middle)
    (h' : CombedSince document given middle seen) (later : middle ⊆ seen) :
    CombedSince document given before seen := by
  intro reference mem new
  by_cases old : reference ∈ middle
  · obtain ⟨target, here, combed⟩ := h reference old new
    exact ⟨target, here, combed.mono (fun _ hq => hq) later⟩
  · exact h' reference mem old

/-- Once all that was seen has been gone through, so has all that is gathered. -/
theorem of_gathers (h : CombedSince document given [] seen) {schema last : Json}
    (gathers : Gathers document schema last) (combed : Combed document given seen schema) :
    Combed document given seen last := by
  induction gathers with
  | here => exact combed
  | reference ref here _ ih =>
    cases combed with
    | reference ref' old =>
      rw [ref] at ref'
      obtain ⟨target, found, combed⟩ := h _ (Option.some.inj ref' ▸ old) List.not_mem_nil
      rw [here] at found
      exact ih (Option.some.inj found ▸ combed)
    | own ref' =>
      rw [ref] at ref'
      cases ref'
  | part ref mem _ ih =>
    cases combed with
    | reference ref' =>
      rw [ref] at ref'
      cases ref'
    | own _ parts => exact ih (parts _ mem)

theorem collectable (h : CombedSince document given [] seen) {schema : Json}
    (combed : Combed document given seen schema) : Collectable document given schema where
  whole last reference gathers ref := by
    cases h.of_gathers gathers combed with
    | reference ref' old =>
      rw [ref] at ref'
      obtain ⟨target, here, _⟩ := h _ (Option.some.inj ref' ▸ old) List.not_mem_nil
      exact ⟨target, here⟩
    | own ref' =>
      rw [ref] at ref'
      cases ref'
  owned property owns := by
    obtain ⟨last, name, gathers, ref, mem⟩ := owns
    cases h.of_gathers gathers combed with
    | reference ref' =>
      rw [ref] at ref'
      cases ref'
    | own _ _ properties => exact properties name property mem

end CombedSince

namespace Resolvable

variable {schema : Json}

theorem of_reference {reference : String} {wrap : Schema.Wrap}
    (form : Schema.form schema = .reference reference wrap) (asked : given reference) :
    Resolvable document given schema := by
  refine .mk (fun reference' wrap' form' => ?_) (fun nullable form' => ?_) (fun next step => ?_)
  · rw [form] at form'
    injection form' with same
    exact same ▸ asked
  · rw [form] at form'
    cases form'
  · rcases step with form' | form' <;>
      (rw [form] at form'; cases form')

theorem of_inner {inner : Json} {suffix segment : String} {wrap : Schema.Wrap}
    (form : Schema.form schema = .inner inner suffix segment wrap)
    (h : Resolvable document given inner) : Resolvable document given schema := by
  refine .mk (fun reference' wrap' form' => ?_) (fun nullable form' => ?_) (fun next step => ?_)
  · rw [form] at form'
    cases form'
  · rw [form] at form'
    cases form'
  · rcases step with form' | form'
    · rw [form] at form'
      injection form' with same
      exact same ▸ h
    · rw [form] at form'
      cases form'

theorem of_object {nullable : Bool} (form : Schema.form schema = .object nullable)
    (h : Collectable document given schema) : Resolvable document given schema := by
  refine .mk (fun reference' wrap' form' => ?_) (fun _ _ => h.whole) (fun next step => ?_)
  · rw [form] at form'
    cases form'
  · rcases step with form' | ⟨_, owns⟩
    · rw [form] at form'
      cases form'
    · exact h.owned next owns

/-- A schema that does not depend on others. -/
theorem of_leaf (leaf : (∃ nullable, Schema.form schema = .enum nullable) ∨
    ∃ type, Schema.form schema = .plain type) : Resolvable document given schema := by
  refine .mk (fun reference' wrap' form' => ?_) (fun nullable form' => ?_) (fun next step => ?_)
  · rcases leaf with ⟨_, form⟩ | ⟨_, form⟩ <;> (rw [form] at form'; cases form')
  · rcases leaf with ⟨_, form⟩ | ⟨_, form⟩ <;> (rw [form] at form'; cases form')
  · rcases step with form' | form' <;>
      rcases leaf with ⟨_, form⟩ | ⟨_, form⟩ <;> (rw [form] at form'; cases form')

end Resolvable

/-- What a call with an answer was about can be resolved. -/
def Call.Done (document : Json) (given : String → Prop) : (c : Call) → c.Answer → Prop
  | .reference asked _, _ => given asked
  | .schema value _ _, _ => Resolvable document given value
  | .enum .., _ => True
  | .object _ value _, _ => Collectable document given value
  | .gather _ value _ g, g' =>
    Combed document given g'.seen value ∧ CombedSince document given g.seen g'.seen
  | .parts _ list _ g, g' =>
    (∀ part ∈ list, Combed document given g'.seen part.1) ∧
      CombedSince document given g.seen g'.seen
  | .members _ _ list _ g, g' =>
    (∀ member ∈ list, Resolvable document given member.2) ∧ g'.seen = g.seen

/-- What is resolved was made of what is known. -/
def Made (document : Json) (r : Resolver) : Prop :=
  ∀ reference type, r.resolved.get? reference = some type → Makeable document (Known r) reference

theorem Made.enter {r : Resolver} (h : Made document r) (wanted place reference : String) :
    Made document ((r.claim wanted place).enter reference) :=
  fun q type found => (h q type found).mono fun _ known =>
    known.imp_right fun met => List.mem_cons_of_mem _ met

theorem known_settle {r : Resolver} {reference : String} {type : TypeExpr} (q : String)
    (known : Known r q) : Known (settle r reference (.ok type)) q := by
  by_cases same : q = reference
  · subst same
    exact .inl ⟨type, by simp [settle, remember, KeyMap.get?_insert]⟩
  · rcases known with resolved | met
    · rw [← get?_settle_of_ne (.ok type) same] at resolved
      exact .inl resolved
    · exact .inr ((List.mem_erase_of_ne same).mpr met)

theorem Made.settle {r : Resolver} {reference : String} {type : TypeExpr} (h : Made document r)
    (makeable : Makeable document (Known r) reference) :
    Made document (settle r reference (.ok type)) ∧
      Known (Resolve.settle r reference (.ok type)) reference := by
  refine ⟨fun q t found => ?_, .inl ⟨type, by simp [Resolve.settle, remember, KeyMap.get?_insert]⟩⟩
  simp only [Resolve.settle, remember, KeyMap.get?_insert] at found
  split at found
  · next same =>
    rw [← same]
    exact makeable.mono known_settle
  · exact (h q t found).mono known_settle

/-- A run that gives an answer has gone through all that it was about. -/
theorem run_done {n : Nat} {c : Call} {r r' : Resolver} {o : Except Failure c.Answer}
    (run : Run document n c r o r') :
    Made document r → ∀ a, o = .ok a → Made document r' ∧ c.Done document (Known r') a := by
  induction run with
  | endless | lost | unclosed | noEnum | noObject | lostPart | failedParts | failedPart
  | failedMember => exact fun _ _ ok => nomatch ok
  | known known =>
    rintro made _ ⟨⟩
    exact ⟨made, .inl ⟨_, known⟩⟩
  | closed _ _ met =>
    rintro made _ ⟨⟩
    exact ⟨made, .inr met⟩
  | madeEnum _ here _ kind _ ih =>
    rintro made type rfl
    obtain ⟨made', -⟩ := ih (made.enter _ _ _) type rfl
    refine made'.settle ⟨_, here, fun object => ?_, fun other => ?_⟩
    · rw [kind] at object
      cases object
    · rw [kind] at other
      cases other
  | madeObject _ here _ kind _ ih =>
    rintro made type rfl
    obtain ⟨made', collectable⟩ := ih (made.enter _ _ _) type rfl
    refine made'.settle ⟨_, here, fun _ => collectable, fun other => ?_⟩
    rw [kind] at other
    cases other
  | madeOther _ here _ kind _ ih =>
    rintro made type rfl
    obtain ⟨made', resolvable⟩ := ih (made.enter _ _ _) type rfl
    refine made'.settle ⟨_, here, fun object => ?_, fun _ => resolvable⟩
    rw [kind] at object
    cases object
  | asked form _ ih =>
    rintro made _ ok
    obtain ⟨t, rfl, rfl⟩ := eq_ok_of_map ok
    obtain ⟨made', known⟩ := ih made t rfl
    exact ⟨made', .of_reference form known⟩
  | inner form _ ih =>
    rintro made _ ok
    obtain ⟨t, rfl, rfl⟩ := eq_ok_of_map ok
    obtain ⟨made', resolvable⟩ := ih made t rfl
    exact ⟨made', .of_inner form resolvable⟩
  | inlineObject form _ ih =>
    rintro made _ ok
    obtain ⟨t, rfl, rfl⟩ := eq_ok_of_map ok
    obtain ⟨made', collectable⟩ := ih made t rfl
    exact ⟨made', .of_object form collectable⟩
  | inlineEnum form _ ih =>
    rintro made _ ok
    obtain ⟨t, rfl, rfl⟩ := eq_ok_of_map ok
    exact ⟨(ih made t rfl).1, .of_leaf (.inl ⟨_, form⟩)⟩
  | plain form =>
    rintro made _ ⟨⟩
    exact ⟨made, .of_leaf (.inr ⟨_, form⟩)⟩
  | enum =>
    rintro made _ ⟨⟩
    exact ⟨made, trivial⟩
  | object _ ih =>
    rintro made _ ⟨⟩
    obtain ⟨made', combed, since⟩ := ih made _ rfl
    exact ⟨made', since.collectable combed⟩
  | seen ref old =>
    rintro made _ ⟨⟩
    exact ⟨made, .reference ref old, .refl _⟩
  | @followed _ _ _ reference _ _ _ _ _ _ ref _ here run ih =>
    rintro made g' rfl
    obtain ⟨made', combed, since⟩ := ih made g' rfl
    have later := run_seen run rfl
    refine ⟨made', .reference ref (later List.mem_cons_self), fun q mem new => ?_⟩
    by_cases same : q = reference
    · exact ⟨_, same ▸ here, combed⟩
    · exact since q mem fun old => (List.mem_cons.mp old).elim same new
  | own ref _ members first second =>
    rintro made g' rfl
    obtain ⟨made', parts, since⟩ := first made _ rfl
    obtain ⟨made'', properties, seen⟩ := second made' g' rfl
    have more := run_known members
    rw [Call.Done, seen]
    refine ⟨made'', .own ref (fun part mem => ?_) fun name property mem => properties _ mem,
      since.mono more⟩
    obtain ⟨i, item⟩ := List.mem_iff_getElem?.mp mem
    have combed := parts (part, i) (List.mem_zipIdx_iff_getElem?.mpr item)
    exact combed.mono more fun _ old => old
  | noParts =>
    rintro made _ ⟨⟩
    exact ⟨made, by simp, .refl _⟩
  | part _ rest first second =>
    rintro made g' rfl
    obtain ⟨made', combed, since⟩ := first made _ rfl
    obtain ⟨made'', others, since'⟩ := second made' g' rfl
    have more := run_known rest
    have later := run_seen rest rfl
    refine ⟨made'', fun part mem => ?_, (since.mono more).trans since' later⟩
    rcases List.mem_cons.mp mem with rfl | mem
    · exact combed.mono more later
    · exact others part mem
  | noMembers =>
    rintro made _ ⟨⟩
    exact ⟨made, by simp, rfl⟩
  | member _ rest first second =>
    rintro made g' rfl
    obtain ⟨made', resolvable⟩ := first made _ rfl
    obtain ⟨made'', others, seen⟩ := second made' g' rfl
    refine ⟨made'', fun member mem => ?_, seen⟩
    rcases List.mem_cons.mp mem with rfl | mem
    · exact resolvable.mono (run_known rest)
    · exact others member mem

/-! ## All named schemas -/

/-- What every call for a named schema keeps, and what it gives that others keep, holds in the end
for all of them. -/
theorem allNamed_ok {I : Resolver → Prop} {P : String → Resolver → Prop} {r : Resolver}
    (start : I .start)
    (step : ∀ {name schema r r' type}, (name, schema) ∈ namedSchemas document → I r →
      Run document (nestingBound document)
        (.reference (child (schemasPrefix document) name) (schemasPrefix document)) r (.ok type) r' →
      I r' ∧ P name r' ∧ ∀ other, P other r → P other r')
    (h : outcome (allNamed document) .start = (.ok ⟨⟩, r)) :
    I r ∧ ∀ name schema, (name, schema) ∈ namedSchemas document → P name r := by
  have all (names : List (String × Json)) (named : names ⊆ namedSchemas document)
      (r₀ : Resolver) (hI : I r₀)
      (h : outcome (names.forM fun m => do let _ ← ofName document m.1) r₀ = (.ok ⟨⟩, r)) :
      I r ∧ (∀ m ∈ names, P m.1 r) ∧ ∀ other, P other r₀ → P other r := by
    induction names generalizing r₀ with
    | nil =>
      obtain rfl : r₀ = r := congrArg Prod.snd h
      exact ⟨hI, by simp, fun _ h => h⟩
    | cons m rest ih =>
      obtain ⟨name, schema⟩ := m
      change outcome ((do let _ ← ofName document name) >>= fun _ => rest.forM _) r₀ = _ at h
      have run := Run.run_compute document (nestingBound document)
        (.reference (child (schemasPrefix document) name) (schemasPrefix document)) r₀
      simp only [outcome_bind] at h
      change andThen (andThen (outcome (Call.compute document _ (.reference _ _)) r₀) _) _ = _ at h
      generalize outcome (Call.compute document _ (.reference _ _)) r₀ = o at run h
      obtain ⟨failure | type, r₁⟩ := o
      · cases h
      · obtain ⟨hI', own, keeps⟩ := step (named List.mem_cons_self) hI run
        obtain ⟨hI'', others, later⟩ := ih (fun _ mem => named (List.mem_cons_of_mem _ mem)) r₁ hI' h
        refine ⟨hI'', List.forall_mem_cons.mpr ⟨later name own, others⟩, fun other held => ?_⟩
        exact later other (keeps other held)
  obtain ⟨hI, names, _⟩ := all (namedSchemas document) (fun _ mem => mem) .start start h
  exact ⟨hI, fun name schema mem => names (name, schema) mem⟩

theorem Known.resolved {r : Resolver} {reference : String} (known : Known r reference)
    (idle : Idle r) : ∃ type, r.resolved.get? reference = some type := by
  rcases known with resolved | met
  · exact resolved
  · rw [show r.inProgress = [] from idle] at met
    exact absurd met List.not_mem_nil

/-- If all named schemas were resolved, their references are known, and those known are consistent. -/
theorem consistent_of_allNamed {r : Resolver}
    (h : outcome (allNamed document) .start = (.ok ⟨⟩, r)) :
    Consistent document (Known r) ∧ HasNames document (Known r) := by
  obtain ⟨⟨idle, made⟩, names⟩ := allNamed_ok (I := fun r => Idle r ∧ Made document r)
    (P := fun name r => Known r (child (schemasPrefix document) name))
    ⟨rfl, fun _ _ found => by cases found⟩
    (fun _ ⟨idle, made⟩ run => by
      obtain ⟨made', known⟩ := run_done run made _ rfl
      exact ⟨⟨(run_inProgress run).trans idle, made'⟩, known, fun _ => run_known run _⟩) h
  refine ⟨fun reference known => ?_, names⟩
  obtain ⟨type, found⟩ := known.resolved idle
  exact made reference type found

/-- Whether all named schemas can be resolved does not depend on their order, if cycles close. -/
theorem allNamed_ok_iff (close : CyclesClose document) :
    (∃ r, outcome (allNamed document) .start = (.ok ⟨⟩, r)) ↔
      ∃ given, Consistent document given ∧ HasNames document given := by
  constructor
  · rintro ⟨r, h⟩
    exact ⟨Known r, consistent_of_allNamed h⟩
  · rintro ⟨given, all, names⟩
    exact allNamed_of_consistent close all names

end Api
end Scaffold

/-
What a call of the resolver leaves alone, whether it succeeds or fails. The references in progress
are those it started with, and what was resolved, named or defined before stays as it was. What is
resolved afterwards and was not before is the type that resolving that very reference gave on the
way: `compute_frame`.
-/
import Scaffold.Proofs.Api.History
import Scaffold.Proofs.Api.Nesting

namespace Scaffold
namespace Api

open Resolver Resolve

variable {document : Json}

/-- Nothing that was resolved, named or defined is changed or lost. -/
structure Keeps (r r' : Resolver) : Prop extends Grows r r' where
  resolved : ∀ reference type, r.resolved.get? reference = some type →
    r'.resolved.get? reference = some type

theorem Keeps.refl (r : Resolver) : Keeps r r :=
  ⟨.refl r, fun _ _ h => h⟩

theorem Keeps.trans {r r' r'' : Resolver} (h : Keeps r r') (h' : Keeps r' r'') : Keeps r r'' :=
  ⟨h.toGrows.trans h'.toGrows, fun reference type known =>
    h'.resolved reference type (h.resolved reference type known)⟩

theorem Keeps.claim (r : Resolver) (wanted place : String) : Keeps r (r.claim wanted place) :=
  ⟨.claim .., fun _ _ known => known⟩

theorem Keeps.offer (r : Resolver) (place : String) (source : Source) (d : TypeDefinition) :
    Keeps r (r.offer place source d) :=
  ⟨.offer .., fun _ _ known => known⟩

theorem Keeps.enter (r : Resolver) (reference : String) : Keeps r (r.enter reference) :=
  ⟨.enter .., fun _ _ known => known⟩

/-- Between the two states the reference was resolved anew, below all that was in progress, and its
type was this one. -/
def ResolvedBetween (document : Json) (r r' : Resolver) (reference : String) (type : TypeExpr) :
    Prop :=
  ∃ n place before after, outcome (resolveRef document n reference place) before = (.ok type, after) ∧
    before.resolved.get? reference = none ∧ r.inProgress <:+ before.inProgress ∧
    Keeps r before ∧ Keeps after r'

theorem ResolvedBetween.extend {r₀ r r' r₁ : Resolver} {reference : String} {type : TypeExpr}
    (h : ResolvedBetween document r r' reference type) (inside : r₀.inProgress <:+ r.inProgress)
    (before : Keeps r₀ r) (after : Keeps r' r₁) :
    ResolvedBetween document r₀ r₁ reference type := by
  obtain ⟨n, place, start, last, gives, new, inside', keeps, keeps'⟩ := h
  exact ⟨n, place, start, last, gives, new, inside.trans inside', before.trans keeps,
    keeps'.trans after⟩

/-! ## The types of references -/

theorem get?_resolved_settle {reference other : String} (r : Resolver)
    (o : Except Failure TypeExpr) (differs : reference ≠ other) :
    (settle r reference o).resolved.get? other = r.resolved.get? other := by
  cases o with
  | error failure => rfl
  | ok type => simp [settle, remember, leave, differs]

/-- The type of a reference in progress is not known before its definition is made. -/
theorem run_unresolved {n : Nat} {c : Call} {r r' : Resolver} {o : Except Failure c.Answer}
    (run : Run document n c r o r') {reference : String} (met : reference ∈ r.inProgress)
    (new : r.resolved.get? reference = none) : r'.resolved.get? reference = none := by
  induction run with
  | endless | known | lost | unclosed | plain | noEnum | seen | lostPart | noParts | noMembers
  | closed | enum => exact new
  | madeEnum _ _ free _ _ ih | madeObject _ _ free _ _ ih | madeOther _ _ free _ _ ih =>
    rw [get?_resolved_settle _ _ (ne_of_mem_of_not_mem met free).symm]
    exact ih (List.mem_cons_of_mem _ met) new
  | asked _ _ ih | inner _ _ ih | noObject _ ih | followed _ _ _ _ ih | failedParts _ _ ih
  | failedPart _ ih | failedMember _ ih | inlineObject _ _ ih | inlineEnum _ _ ih
  | object _ ih => exact ih met new
  | own _ first_run _ first second | part first_run _ first second
  | member first_run _ first second =>
    exact second (run_inProgress first_run ▸ met) (first met new)

/-- What was resolved before a reference was made, and on the way, stays when it is left. -/
theorem keeps_settle {n : Nat} {c : Call} {reference : String} {r r' : Resolver}
    {o : Except Failure c.Answer} (run : Run document n c (r.enter reference) o r')
    (new : r.resolved.get? reference = none) (outcome : Except Failure TypeExpr) :
    Keeps r' (settle r' reference outcome) := by
  refine ⟨.settle .., fun other type known => ?_⟩
  have unknown := run_unresolved run List.mem_cons_self new
  rw [get?_resolved_settle _ _ (fun same => ?_)]
  · exact known
  · rw [← same, unknown] at known
    cases known

theorem run_keeps {n : Nat} {c : Call} {r r' : Resolver} {o : Except Failure c.Answer}
    (run : Run document n c r o r') : Keeps r r' := by
  refine ⟨run_grows run, ?_⟩
  induction run with
  | endless | known | lost | unclosed | plain | noEnum | seen | lostPart | noParts | noMembers
  | closed | enum => exact fun _ _ known => known
  | madeEnum new _ _ _ made ih | madeObject new _ _ _ made ih | madeOther new _ _ _ made ih =>
    exact fun other type known => (keeps_settle made new _).resolved other type (ih other type known)
  | asked _ _ ih | inner _ _ ih | noObject _ ih | followed _ _ _ _ ih | failedParts _ _ ih
  | failedPart _ ih | failedMember _ ih | inlineObject _ _ ih | inlineEnum _ _ ih
  | object _ ih => exact ih
  | own _ _ _ first second | part _ _ first second | member _ _ first second =>
    exact fun other type known => second other type (first other type known)

/-- The only type that a reference newly has is the one that resolving it gave. -/
def Gains (document : Json) (r r' : Resolver) : Prop :=
  ∀ reference type, r.resolved.get? reference = none → r'.resolved.get? reference = some type →
    ResolvedBetween document r r' reference type

theorem Gains.of_same {r r' : Resolver} (same : r'.resolved = r.resolved) : Gains document r r' := by
  intro reference type new known
  rw [same, new] at known
  cases known

theorem Gains.claim (document : Json) (r : Resolver) (wanted place : String) :
    Gains document r (r.claim wanted place) :=
  .of_same rfl

theorem Gains.trans {r r' r'' : Resolver} (first : Gains document r r')
    (second : Gains document r' r'') (same : r'.inProgress = r.inProgress) (keeps : Keeps r r')
    (keeps' : Keeps r' r'') : Gains document r r'' := by
  intro reference type new known
  cases middle : r'.resolved.get? reference with
  | none =>
    exact (second reference type middle known).extend (same ▸ List.suffix_refl _) keeps (.refl _)
  | some type' =>
    have known' := keeps'.resolved reference type' middle
    rw [known] at known'
    rw [← Option.some.inj known'] at middle
    exact (first reference type new middle).extend (List.suffix_refl _) (.refl _) keeps'

/-- Of a reference that is made, its own type is gained, and what is gained on the way. -/
theorem Gains.made {n : Nat} {c : Call} {reference : String} {r r' : Resolver}
    {o : Except Failure c.Answer} {outcome : Except Failure TypeExpr} (place : String)
    (new : r.resolved.get? reference = none)
    (made : Run document n c ((r.claim (Json.Pointer.lastSegment reference) reference).enter reference)
      o r')
    (whole : Run document (n + 1) (.reference reference place) r outcome (settle r' reference outcome))
    (inside : Gains document
      ((r.claim (Json.Pointer.lastSegment reference) reference).enter reference) r') :
    Gains document r (settle r' reference outcome) := by
  intro other type new' known
  by_cases own : reference = other
  · subst own
    cases outcome with
    | ok type' =>
      have same : type' = type := by simpa [settle, remember] using known
      subst same
      exact ⟨n + 1, place, r, _, Run.compute_run whole, new, List.suffix_refl _, .refl _, .refl _⟩
    | error failure =>
      have unknown : r'.resolved.get? reference = none := run_unresolved made List.mem_cons_self new
      rw [show (settle r' reference (.error failure)).resolved = r'.resolved from rfl, unknown] at known
      cases known
  · rw [get?_resolved_settle _ _ own] at known
    exact (inside other type new' known).extend (List.suffix_cons ..)
      ((Keeps.claim ..).trans (.enter ..)) (keeps_settle made new _)

theorem run_gains {n : Nat} {c : Call} {r r' : Resolver} {o : Except Failure c.Answer}
    (run : Run document n c r o r') : Gains document r r' := by
  induction run with
  | endless | known | lost | unclosed | plain | noEnum | seen | lostPart | noParts | noMembers
  | closed | enum => exact .of_same rfl
  | @madeEnum _ _ place _ _ _ _ new here free kind made ih =>
    exact .made place new made (.madeEnum new here free kind made) ih
  | @madeObject _ _ place _ _ _ _ new here free kind made ih =>
    exact .made place new made (.madeObject new here free kind made) ih
  | @madeOther _ _ place _ _ _ _ new here free kind made ih =>
    exact .made place new made (.madeOther new here free kind made) ih
  | asked _ _ ih | inner _ _ ih | noObject _ ih | followed _ _ _ _ ih | failedParts _ _ ih
  | failedPart _ ih | failedMember _ ih => exact ih
  | inlineObject _ run ih | inlineEnum _ run ih =>
    exact .trans (.claim _ _ _ _) ih rfl (.claim ..) (run_keeps run)
  | object run ih => exact ih.trans (.of_same rfl) (run_inProgress run) (run_keeps run) (.offer ..)
  | own _ first_run second_run first second | part first_run second_run first second
  | member first_run second_run first second =>
    exact first.trans second (run_inProgress first_run) (run_keeps first_run) (run_keeps second_run)

/-- Whatever is asked of a resolver in whatever state, and however it ends: the references in progress
are the same afterwards, what was known stays, and a reference that was not resolved before and is now
has the type that its resolution gave on the way. -/
theorem compute_frame (document : Json) (n : Nat) (c : Call) (r : Resolver) :
    let r' := (outcome (c.compute document n) r).2
    r'.inProgress = r.inProgress ∧
    (∀ reference type, r.resolved.get? reference = some type →
      r'.resolved.get? reference = some type) ∧
    (∀ name place, r.names.get? name = some place → r'.names.get? name = some place) ∧
    (∀ name d, r.table.get? name = some d → r'.table.get? name = some d) ∧
    ∀ reference type, r.resolved.get? reference = none → r'.resolved.get? reference = some type →
      ResolvedBetween document r r' reference type := by
  intro r'
  have run := Run.run_compute document n c r
  have keeps := run_keeps run
  exact ⟨run_inProgress run, keeps.resolved, keeps.names, keeps.table, run_gains run⟩

end Api
end Scaffold

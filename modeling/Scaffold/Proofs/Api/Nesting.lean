/-
Bounds on the nesting of calls. Runs are exactly what is computed, and a computation that does not
break off at the bound gives the same with any greater one: `outcome_compute_of_le`.
-/
import Scaffold.Proofs.Api.Run

namespace Scaffold
namespace Api
namespace Run

open Resolve Json.Pointer

variable {document : Json}

/-! ## Runs are computed -/

theorem compute_run {n : Nat} {c : Call} {r r' : Resolver} {o : Except Failure c.Answer}
    (run : Run document n c r o r') : outcome (c.compute document n) r = (o, r') := by
  induction run with
  | @endless c r deep =>
    cases c with
    | enum | parts | members => exact deep.elim
    | _ => rfl
  | known known => simp [Call.compute, resolveRef, known]
  | lost new lost => simp [Call.compute, resolveRef, new, follow, lost]
  | closed new here met close =>
    simp [Call.compute, resolveRef, new, follow, here, met, closeCycle, close, Except.map]
  | unclosed new here met close =>
    simp [Call.compute, resolveRef, new, follow, here, met, closeCycle, close]
  | madeEnum new here free kind _ ih =>
    simp only [Call.compute] at ih
    simp [Call.compute, resolveRef, new, follow, here, free, kind, ih]
  | madeObject new here free kind _ ih =>
    simp only [Call.compute] at ih
    simp [Call.compute, resolveRef, new, follow, here, free, kind, ih]
  | madeOther new here free kind _ ih =>
    simp only [Call.compute] at ih
    simp [Call.compute, resolveRef, new, follow, here, free, kind, ih]
  | asked form _ ih | inner form _ ih | inlineObject form _ ih | inlineEnum form _ ih =>
    simp only [Call.compute] at ih
    simp [Call.compute, schemaType, form, ih]
  | plain form => simp [Call.compute, schemaType, form]
  | enum values => simp [Call.compute, defineEnum, values, Except.map]
  | noEnum none => simp [Call.compute, defineEnum, none]
  | object _ ih | noObject _ ih =>
    simp only [Call.compute] at ih
    simp [Call.compute, defineObject, ih, Except.map]
  | seen ref old => simp [Call.compute, gather, ref, old]
  | lostPart ref new lost => simp [Call.compute, gather, ref, new, follow, lost]
  | followed ref new here _ ih =>
    simp only [Call.compute] at ih
    simp [Call.compute, gather, ref, new, follow, here, ih]
  | own ref _ _ first second =>
    simp only [Call.compute] at first second
    simp only [Call.compute, gather, ref, outcome_bind, first, andThen_ok]
    exact second
  | failedParts ref _ ih =>
    simp only [Call.compute] at ih
    simp only [Call.compute, gather, ref, outcome_bind, ih, andThen_error]
  | noParts | noMembers => rfl
  | part _ _ first second =>
    simp only [Call.compute] at first second
    simp only [Call.compute, List.foldlM_cons, outcome_bind, first, andThen_ok]
    exact second
  | member _ _ first second =>
    simp only [Call.compute] at first second
    simp only [Call.compute, List.foldlM_cons, outcome_bind, first, andThen_ok, outcome_pure]
    exact second
  | failedPart _ ih | failedMember _ ih =>
    simp only [Call.compute] at ih
    simp only [Call.compute, List.foldlM_cons, outcome_bind, ih, andThen_error]

/-! ## Deeper nesting -/

/-- An outcome that does not come of breaking off. -/
def Complete {α : Type} (o : Except Failure α) : Prop :=
  ∀ failure, o = .error failure → failure.cause ≠ .endless

theorem complete_ok {α : Type} (a : α) : Complete (.ok a) :=
  fun _ h => nomatch h

theorem complete_of_error {α β : Type} {failure : Failure}
    (h : Complete (.error failure : Except Failure α)) :
    Complete (.error failure : Except Failure β) :=
  fun failure' same => h failure' (congrArg Except.error (Except.error.inj same))

theorem complete_of_map {α β : Type} {o : Except Failure α} {g : α → β}
    (h : Complete (o.map g)) : Complete o := by
  cases o with
  | error failure => exact complete_of_error h
  | ok a => exact complete_ok a

theorem exists_of_succ_le {n m : Nat} (le : n + 1 ≤ m) : ∃ k, m = k + 1 ∧ n ≤ k :=
  ⟨m - 1, by omega, by omega⟩

/-- A run that does not break off stays the same if calls may be nested deeper. -/
theorem deepen {n m : Nat} {c : Call} {r r' : Resolver} {o : Except Failure c.Answer}
    (run : Run document n c r o r') (complete : Complete o) (le : n ≤ m) :
    Run document m c r o r' := by
  induction run generalizing m with
  | endless => exact absurd rfl (complete _ rfl)
  | enum values => exact .enum values
  | noEnum none => exact .noEnum none
  | noParts => exact .noParts
  | noMembers => exact .noMembers
  | part _ _ first second => exact .part (first (complete_ok _) le) (second complete le)
  | failedPart _ ih => exact .failedPart (ih (complete_of_error complete) le)
  | member _ _ first second => exact .member (first (complete_ok _) le) (second complete le)
  | failedMember _ ih => exact .failedMember (ih (complete_of_error complete) le)
  | known known =>
    obtain ⟨k, rfl, lower⟩ := exists_of_succ_le le
    exact .known known
  | lost new lost =>
    obtain ⟨k, rfl, lower⟩ := exists_of_succ_le le
    exact .lost new lost
  | closed new here met close =>
    obtain ⟨k, rfl, lower⟩ := exists_of_succ_le le
    exact .closed new here met close
  | unclosed new here met close =>
    obtain ⟨k, rfl, lower⟩ := exists_of_succ_le le
    exact .unclosed new here met close
  | madeEnum new here free kind _ ih =>
    obtain ⟨k, rfl, lower⟩ := exists_of_succ_le le
    exact .madeEnum new here free kind (ih complete lower)
  | madeObject new here free kind _ ih =>
    obtain ⟨k, rfl, lower⟩ := exists_of_succ_le le
    exact .madeObject new here free kind (ih complete lower)
  | madeOther new here free kind _ ih =>
    obtain ⟨k, rfl, lower⟩ := exists_of_succ_le le
    exact .madeOther new here free kind (ih complete lower)
  | asked form _ ih =>
    obtain ⟨k, rfl, lower⟩ := exists_of_succ_le le
    exact .asked form (ih (complete_of_map complete) lower)
  | inner form _ ih =>
    obtain ⟨k, rfl, lower⟩ := exists_of_succ_le le
    exact .inner form (ih (complete_of_map complete) lower)
  | inlineObject form _ ih =>
    obtain ⟨k, rfl, lower⟩ := exists_of_succ_le le
    exact .inlineObject form (ih (complete_of_map complete) lower)
  | inlineEnum form _ ih =>
    obtain ⟨k, rfl, lower⟩ := exists_of_succ_le le
    exact .inlineEnum form (ih (complete_of_map complete) lower)
  | plain form =>
    obtain ⟨k, rfl, lower⟩ := exists_of_succ_le le
    exact .plain form
  | object _ ih =>
    obtain ⟨k, rfl, lower⟩ := exists_of_succ_le le
    exact .object (ih (complete_ok _) lower)
  | noObject _ ih =>
    obtain ⟨k, rfl, lower⟩ := exists_of_succ_le le
    exact .noObject (ih (complete_of_error complete) lower)
  | seen ref old =>
    obtain ⟨k, rfl, lower⟩ := exists_of_succ_le le
    exact .seen ref old
  | lostPart ref new lost =>
    obtain ⟨k, rfl, lower⟩ := exists_of_succ_le le
    exact .lostPart ref new lost
  | followed ref new here _ ih =>
    obtain ⟨k, rfl, lower⟩ := exists_of_succ_le le
    exact .followed ref new here (ih complete lower)
  | own ref _ _ first second =>
    obtain ⟨k, rfl, lower⟩ := exists_of_succ_le le
    exact .own ref (first (complete_ok _) lower) (second complete lower)
  | failedParts ref _ ih =>
    obtain ⟨k, rfl, lower⟩ := exists_of_succ_le le
    exact .failedParts ref (ih (complete_of_error complete) lower)

/-- A computation that does not break off gives the same with any greater bound. -/
theorem outcome_compute_of_le {n m : Nat} {c : Call} {r : Resolver}
    (complete : Complete (outcome (c.compute document n) r).1) (le : n ≤ m) :
    outcome (c.compute document m) r = outcome (c.compute document n) r :=
  compute_run (deepen (run_compute document n c r) complete le)

end Run

end Api
end Scaffold

/-
Chains of references. A chain that is followed without coming back to a reference is no longer
than the document has values, so following one always ends: `described_ne_endless` and
`cycleEnd_ne_endless`.
-/
import Mathlib.Data.List.Nodup
import Mathlib.Data.List.Perm.Subperm
import Mathlib.Logic.Relation
import Scaffold.Api.Document
import Scaffold.Proofs.Json.Values

namespace Scaffold
namespace Api

open Json.Pointer

variable {document : Json}

theorem mem_values_of_lookup? {reference : String} {target : Json}
    (h : lookup? document reference = some target) : target ∈ document.values := by
  unfold lookup? at h
  split at h
  · exact mem_values_of_resolve? h
  · cases h

def textsOf (document : Json) : List String :=
  document.values.filterMap Json.str?

theorem ref?_mem_textsOf {v : Json} {reference : String} (inside : v ∈ document.values)
    (ref : Schema.ref? v = some reference) : reference ∈ textsOf document := by
  have text := Json.values_subset_of_get? (Json.get?_of_strAt? ref) (Json.mem_values_self _)
  exact List.mem_filterMap.mpr ⟨_, Json.values_subset document inside text, rfl⟩

/-- There are no more different references than values. -/
theorem length_le_of_texts {seen : List String} {first : String} (nodup : seen.Nodup)
    (texts : seen ⊆ first :: textsOf document) : seen.length ≤ document.size + 1 := by
  have short := (List.subperm_of_subset nodup texts).length_le
  have few : (textsOf document).length ≤ document.values.length := List.length_filterMap_le ..
  rw [Json.length_values] at few
  rw [List.length_cons] at short
  omega

/-! ## Aliases -/

/-- A reference that leads to another reference. -/
def Alias (document : Json) (reference next : String) : Prop :=
  ∃ target, lookup? document reference = some target ∧ Schema.ref? target = some next

/-- A reference to an object schema. -/
def LeadsToObject (document : Json) (reference : String) : Prop :=
  ∃ target, lookup? document reference = some target ∧ Schema.ref? target = none ∧
    (Schema.isObject target && !Schema.isEnum target) = true

/-- Where a cycle ends is an object, and aliases lead there. -/
theorem cycleEnd_spec {reference place current last : String} {fuel : Nat} {seen : List String}
    (h : Resolve.cycleEnd document reference place fuel seen current = .ok last) :
    Relation.ReflTransGen (Alias document) current last ∧ LeadsToObject document last := by
  induction fuel generalizing seen current with
  | zero => cases h
  | succ fuel ih =>
    rw [Resolve.cycleEnd] at h
    split at h
    · cases h
    · unfold Resolve.follow at h
      cases here : lookup? document current with
      | none =>
        rw [here] at h
        cases h
      | some target =>
        simp only [here, bind, Except.bind] at h
        split at h
        · next next ref =>
          obtain ⟨chain, object⟩ := ih h
          exact ⟨.head ⟨target, here, ref⟩ chain, object⟩
        · next ref =>
          split at h
          · next object =>
            rw [← Except.ok.inj h]
            exact ⟨.refl, target, here, ref, object⟩
          · cases h

/-- The references seen are different and among those there are, so they run out before the fuel
does. -/
theorem cycleEnd_ne_endless_of_seen {reference place current : String} {fuel : Nat}
    {seen : List String} {failure : Failure} (nodup : seen.Nodup)
    (texts : current :: seen ⊆ reference :: textsOf document)
    (enough : fuel + seen.length = document.size + 2)
    (h : Resolve.cycleEnd document reference place fuel seen current = .error failure) :
    failure.cause ≠ .endless := by
  induction fuel generalizing seen current with
  | zero =>
    have := length_le_of_texts nodup fun _ h => texts (List.mem_cons_of_mem _ h)
    omega
  | succ fuel ih =>
    rw [Resolve.cycleEnd] at h
    split at h
    · rw [← Except.error.inj h]
      simp
    · next new =>
      unfold Resolve.follow at h
      cases here : lookup? document current with
      | none =>
        rw [here] at h
        rw [← Except.error.inj h]
        simp
      | some target =>
        simp only [here, bind, Except.bind] at h
        split at h
        · next next ref =>
          have known := ref?_mem_textsOf (mem_values_of_lookup? here) ref
          refine ih (List.nodup_cons.mpr ⟨by simpa using new, nodup⟩) ?_ ?_ h
          · exact List.cons_subset.mpr ⟨List.mem_cons_of_mem _ known, texts⟩
          · rw [List.length_cons]
            omega
        · split at h
          · cases h
          · rw [← Except.error.inj h]
            simp

theorem cycleEnd_ne_endless {reference place : String} {failure : Failure}
    (h : Resolve.cycleEnd document reference place (document.size + 2) [] reference =
      .error failure) : failure.cause ≠ .endless :=
  cycleEnd_ne_endless_of_seen List.nodup_nil (by simp) rfl h

/-- With more fuel a search that does not run out of it ends as before. -/
theorem cycleEnd_add {reference place current : String} {fuel k : Nat} {seen : List String}
    (complete : ∀ failure,
      Resolve.cycleEnd document reference place fuel seen current = .error failure →
        failure.cause ≠ .endless) :
    Resolve.cycleEnd document reference place (fuel + k) seen current =
      Resolve.cycleEnd document reference place fuel seen current := by
  induction fuel generalizing seen current with
  | zero => exact absurd rfl (complete _ rfl)
  | succ fuel ih =>
    rw [Nat.succ_add, Resolve.cycleEnd, Resolve.cycleEnd]
    rw [Resolve.cycleEnd] at complete
    split
    · rfl
    · next new =>
      rw [if_neg new] at complete
      unfold Resolve.follow at complete ⊢
      cases here : lookup? document current with
      | none => rfl
      | some target =>
        simp only [here, bind, Except.bind] at complete ⊢
        cases ref : Schema.ref? target with
        | none => rfl
        | some next =>
          simp only [ref] at complete ⊢
          exact ih complete

/-! ## Descriptions -/

/-- Where the references from a value lead in the end. -/
inductive Described (document : Json) : Json → Json → Prop where
  | here {value : Json} (ref : Schema.ref? value = none) : Described document value value
  | there {value target described : Json} {reference : String}
      (ref : Schema.ref? value = some reference) (here : lookup? document reference = some target)
      (rest : Described document target described) : Described document value described

theorem Described.mem_values {value described : Json} (h : Described document value described)
    (inside : value ∈ document.values) : described ∈ document.values := by
  induction h with
  | here => exact inside
  | there _ here _ ih => exact ih (mem_values_of_lookup? here)

theorem deref_spec {place : String} {fuel : Nat} {seen : List String} {value described : Json}
    (h : Resolve.deref document place fuel seen value = .ok described) :
    Described document value described := by
  induction fuel generalizing seen value with
  | zero => cases h
  | succ fuel ih =>
    rw [Resolve.deref] at h
    split at h
    · next ref =>
      rw [← Except.ok.inj h]
      exact .here ref
    · next reference ref =>
      split at h
      · cases h
      · unfold Resolve.follow at h
        cases here : lookup? document reference with
        | none =>
          rw [here] at h
          cases h
        | some target =>
          simp only [here, bind, Except.bind] at h
          exact .there ref here (ih h)

theorem described_spec {value described : Json} {place : String}
    (h : Resolve.described document value place = .ok described) :
    Described document value described :=
  deref_spec h

/-- What is no reference describes itself. -/
theorem described_self {value : Json} {place : String} (own : Schema.ref? value = none) :
    Resolve.described document value place = .ok value := by
  unfold Resolve.described Resolve.deref
  simp only [own]

/-- As for cycles, the references run out before the fuel does. The first one may come from
outside the document. -/
theorem deref_ne_endless (first : String) {place : String} {fuel : Nat} {seen : List String} {value : Json}
    {failure : Failure} (nodup : seen.Nodup) (texts : seen ⊆ first :: textsOf document)
    (next : ∀ reference, Schema.ref? value = some reference →
      reference ∈ first :: textsOf document)
    (enough : fuel + seen.length = document.size + 2)
    (h : Resolve.deref document place fuel seen value = .error failure) :
    failure.cause ≠ .endless := by
  induction fuel generalizing seen value with
  | zero =>
    have := length_le_of_texts nodup texts
    omega
  | succ fuel ih =>
    rw [Resolve.deref] at h
    split at h
    · cases h
    · next reference ref =>
      split at h
      · rw [← Except.error.inj h]
        simp
      · next new =>
        unfold Resolve.follow at h
        cases here : lookup? document reference with
        | none =>
          rw [here] at h
          rw [← Except.error.inj h]
          simp
        | some target =>
          simp only [here, bind, Except.bind] at h
          refine ih (List.nodup_cons.mpr ⟨by simpa using new, nodup⟩) ?_ ?_ ?_ h
          · exact List.cons_subset.mpr ⟨next reference ref, texts⟩
          · intro reference' ref'
            exact List.mem_cons_of_mem _ (ref?_mem_textsOf (mem_values_of_lookup? here) ref')
          · rw [List.length_cons]
            omega

theorem described_ne_endless {value : Json} {place : String} {failure : Failure}
    (h : Resolve.described document value place = .error failure) : failure.cause ≠ .endless := by
  refine deref_ne_endless ((Schema.ref? value).getD "") List.nodup_nil (by simp) ?_ rfl h
  intro reference ref
  rw [ref]
  exact List.mem_cons_self

end Api
end Scaffold

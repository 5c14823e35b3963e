/-
Type names and the places that claim them. Candidates for a name are tried in a fixed order, and a
name given out is never taken back, so a place that claims again gets the name it had:
`nameFor_of_claimed`. No name is ever given to two places: `get?_nameFor`.
-/
import Mathlib.Data.List.Nodup
import Mathlib.Data.List.Perm.Subperm
import Mathlib.Data.Nat.Find
import Scaffold.Api.Resolver
import Scaffold.Proofs.Text.Basic

namespace Scaffold
namespace Api
namespace Resolver

/-- The name that is tried after `k` others. -/
def candidate (base : String) : Nat → String
  | 0 => base
  | k + 1 => base ++ toString (k + 2)

theorem candidate_injective (base : String) : Function.Injective (candidate base) := by
  have suffix_ne (k : Nat) : base ≠ base ++ toString k := by
    intro h
    have empty : toString k = "" := by
      rw [← String.append_right_inj base, String.append_empty]
      exact h.symm
    exact Nat.repr_ne_empty empty
  intro i j h
  cases i with
  | zero =>
    cases j with
    | zero => rfl
    | succ j => exact absurd h (suffix_ne (j + 2))
  | succ i =>
    cases j with
    | zero => exact absurd h.symm (suffix_ne (i + 2))
    | succ j =>
      have := Text.toString_injective ((String.append_right_inj base).mp h)
      omega

/-- A name that another place has. -/
def Taken (names : KeyMap String) (place name : String) : Prop :=
  ∃ owner, names.get? name = some owner ∧ owner ≠ place

variable {names names' : KeyMap String} {base place : String}

/-- The search ends at the first candidate that is not taken. -/
theorem freeName_eq {k j fuel : Nat} (le : k ≤ j) (reach : j ≤ k + fuel)
    (taken : ∀ i, k ≤ i → i < j → Taken names place (candidate base i))
    (free : ¬Taken names place (candidate base j)) :
    freeName names base place fuel (k + 2) (candidate base k) = candidate base j := by
  induction fuel generalizing k with
  | zero =>
    have : k = j := by omega
    rw [freeName, this]
  | succ fuel ih =>
    rw [freeName]
    by_cases h : k = j
    · subst h
      cases owner : names.get? (candidate base k) with
      | none => rfl
      | some p =>
        have own : p = place := by
          by_contra other
          exact free ⟨p, owner, other⟩
        simp only [own, if_true]
    · obtain ⟨p, owner, other⟩ := taken k (Nat.le_refl k) (by omega)
      simp only [owner, if_neg other]
      exact ih (k := k + 1) (by omega) (by omega) fun i hi => taken i (by omega)

/-- There are more candidates than names in use. -/
theorem exists_free (names : KeyMap String) (base place : String) :
    ∃ j, j ≤ names.entries.length ∧ ¬Taken names place (candidate base j) := by
  by_contra none
  have taken (j : Nat) (h : j ≤ names.entries.length) : Taken names place (candidate base j) := by
    by_contra free
    exact none ⟨j, h, free⟩
  let tried := (List.range (names.entries.length + 1)).map (candidate base)
  have nodup : tried.Nodup := List.nodup_range.map (candidate_injective base)
  have used : tried ⊆ names.keys := by
    intro name h
    obtain ⟨j, hj, rfl⟩ := List.mem_map.mp h
    obtain ⟨owner, h, _⟩ := taken j (by have := List.mem_range.mp hj; omega)
    exact KeyMap.mem_keys_of_get? h
  have short := (List.subperm_of_subset nodup used).length_le
  simp only [tried, KeyMap.keys, List.length_map, List.length_range] at short
  omega

/-- A place gets the first candidate that no other place has. -/
theorem nameFor_spec (r : Resolver) (wanted place : String) :
    ∃ j, r.nameFor wanted place = candidate (baseName wanted) j ∧
      ¬Taken r.names place (r.nameFor wanted place) ∧
      ∀ i < j, Taken r.names place (candidate (baseName wanted) i) := by
  classical
  obtain ⟨j₀, le₀, free₀⟩ := exists_free r.names (baseName wanted) place
  let free (j : Nat) : Prop := ¬Taken r.names place (candidate (baseName wanted) j)
  have some_free : ∃ j, free j := ⟨j₀, free₀⟩
  let j := Nat.find some_free
  have le : j ≤ r.names.entries.length := Nat.le_trans (Nat.find_min' some_free free₀) le₀
  have first (i : Nat) (h : i < j) : Taken r.names place (candidate (baseName wanted) i) :=
    not_not.mp (Nat.find_min some_free h)
  have found : r.nameFor wanted place = candidate (baseName wanted) j :=
    freeName_eq (k := 0) (Nat.zero_le j) (by omega) (fun i _ => first i) (Nat.find_spec some_free)
  refine ⟨j, found, ?_, first⟩
  rw [found]
  exact Nat.find_spec some_free

theorem candidate_head {c : Char} (first : base.toList.head? = some c) (k : Nat) :
    (candidate base k).toList.head? = some c := by
  cases k with
  | zero => exact first
  | succ k => simp [candidate, first]

/-- A name starts as the wanted one does. -/
theorem nameFor_head {r : Resolver} {wanted : String} {c : Char}
    (first : (baseName wanted).toList.head? = some c) (place : String) :
    (r.nameFor wanted place).toList.head? = some c := by
  obtain ⟨k, name, _⟩ := nameFor_spec r wanted place
  rw [name]
  exact candidate_head first k

/-- The name for a place is free or the place has it already. -/
theorem get?_nameFor (r : Resolver) (wanted place : String) :
    r.names.get? (r.nameFor wanted place) = none ∨
      r.names.get? (r.nameFor wanted place) = some place := by
  obtain ⟨j, _, free, _⟩ := nameFor_spec r wanted place
  cases owner : r.names.get? (r.nameFor wanted place) with
  | none => exact .inl rfl
  | some p =>
    right
    by_contra other
    exact free ⟨p, owner, fun h => other (congrArg some h)⟩

/-- All names keep their owners. -/
def KeepsNames (r r' : Resolver) : Prop :=
  ∀ name place, r.names.get? name = some place → r'.names.get? name = some place

theorem KeepsNames.refl (r : Resolver) : KeepsNames r r :=
  fun _ _ h => h

theorem KeepsNames.trans {r r' r'' : Resolver} (h : KeepsNames r r') (h' : KeepsNames r' r'') :
    KeepsNames r r'' :=
  fun name place owned => h' name place (h name place owned)

theorem get?_claim (r : Resolver) (wanted place : String) :
    (r.claim wanted place).names.get? (r.nameFor wanted place) = some place := by
  simp [claim]

theorem keepsNames_claim (r : Resolver) (wanted place : String) :
    KeepsNames r (r.claim wanted place) := by
  intro name owner owned
  simp only [claim, KeyMap.get?_insert]
  split
  · next same =>
    subst same
    rcases get?_nameFor r wanted place with free | own
    · rw [free] at owned
      exact absurd owned (by simp)
    · rw [own] at owned
      exact owned
  · exact owned

/-- A place that wants the same again gets the name it was given, whatever was claimed since. -/
theorem nameFor_of_claimed {r r' : Resolver} {wanted place : String} (keep : KeepsNames r r')
    (owned : r'.names.get? (r.nameFor wanted place) = some place) :
    r'.nameFor wanted place = r.nameFor wanted place := by
  obtain ⟨j, name, _, first⟩ := nameFor_spec r wanted place
  obtain ⟨j', name', free', first'⟩ := nameFor_spec r' wanted place
  rcases Nat.lt_trichotomy j j' with lt | eq | gt
  · obtain ⟨owner, other_owned, other⟩ := first' j lt
    rw [name, other_owned] at owned
    exact absurd (Option.some.inj owned) other
  · rw [name, name', eq]
  · obtain ⟨owner, owned, other⟩ := first j' gt
    rw [name'] at free'
    exact absurd ⟨owner, keep _ _ owned, other⟩ free'

end Resolver
end Api
end Scaffold

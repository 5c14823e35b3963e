/-
Documents that differ in the order of the members of one object. The object is at the end of a path
of keys. Pointers that do not stop on that path lead to the same in both documents, and those that do
lead to values that are reordered likewise: `Reordered.lookup`.
-/
import Scaffold.Proofs.Json.Values

namespace Scaffold
namespace Json

open Pointer

/-- The values differ at most in the order of the members, all with different keys, of the object
at the end of the path. -/
inductive Reordered : List String → Json → Json → Prop where
  | here {members members' : List (String × Json)} (distinct : (members.map (·.1)).Nodup)
      (perm : members'.Perm members) : Reordered [] (.object members) (.object members')
  | inner {key : String} {path : List String} {before after : List (String × Json)} {v v' : Json}
      (new : lookup key before = none) (reordered : Reordered path v v') :
      Reordered (key :: path) (.object (before ++ (key, v) :: after))
        (.object (before ++ (key, v') :: after))

theorem lookup_append (key : String) (before after : List (String × Json)) :
    lookup key (before ++ after) = (lookup key before).or (lookup key after) := by
  unfold lookup
  rw [List.find?_append, Option.map_or]

theorem lookup_cons (key : String) (m : String × Json) (rest : List (String × Json)) :
    lookup key (m :: rest) = if m.1 = key then some m.2 else lookup key rest := by
  by_cases same : m.1 = key <;> simp [lookup, same]

theorem lookup_eq_of_perm {members members' : List (String × Json)} (perm : members'.Perm members)
    (distinct : (members.map (·.1)).Nodup) (key : String) :
    lookup key members' = lookup key members := by
  have distinct' : (members'.map (·.1)).Nodup := (perm.map _).nodup_iff.mpr distinct
  ext v
  constructor
  · exact fun found => lookup_of_mem distinct (perm.mem_iff.mp (mem_of_lookup found))
  · exact fun found => lookup_of_mem distinct' (perm.mem_iff.mpr (mem_of_lookup found))

namespace Reordered

variable {path : List String} {v v' : Json}

theorem symm (h : Reordered path v v') : Reordered path v' v := by
  induction h with
  | here distinct perm => exact .here ((perm.map _).nodup_iff.mpr distinct) perm.symm
  | inner new _ ih => exact .inner new ih

/-- Members that are not on the path are the same. -/
theorem get?_eq (h : Reordered path v v') {key : String} (off : key ∉ path) :
    v'.get? key = v.get? key := by
  cases h with
  | here distinct perm => exact lookup_eq_of_perm perm distinct key
  | @inner first path before after w w' new _ =>
    have other : first ≠ key := fun same => off (same ▸ List.mem_cons_self)
    show lookup key (before ++ (first, w') :: after) = lookup key (before ++ (first, w) :: after)
    simp only [lookup_append, lookup_cons, if_neg other]

theorem isSome_get? (h : Reordered path v v') (key : String) :
    (v'.get? key).isSome = (v.get? key).isSome := by
  cases h with
  | here distinct perm => exact congrArg _ (lookup_eq_of_perm perm distinct key)
  | @inner first path before after w w' new _ =>
    show (lookup key (before ++ (first, w') :: after)).isSome =
      (lookup key (before ++ (first, w) :: after)).isSome
    simp only [lookup_append, lookup_cons]
    split
    · cases lookup key before <;> rfl
    · rfl

/-- Where a pointer leads in one document, it leads in the other: to the same, or to a reordered
value on the rest of the path. -/
theorem lookup (h : Reordered path v v') {segments : List String} {w : Json}
    (found : segments.foldlM step? v = some w) :
    ∃ w', segments.foldlM step? v' = some w' ∧
      (w' = w ∨ ∃ rest, rest <:+ path ∧ Reordered rest w w') := by
  induction h generalizing segments with
  | here distinct perm =>
    cases segments with
    | nil =>
      rw [← Option.some.inj found]
      exact ⟨_, rfl, .inr ⟨[], List.suffix_refl _, .here distinct perm⟩⟩
    | cons key rest =>
      rw [List.foldlM_cons, step?] at found
      refine ⟨w, ?_, .inl rfl⟩
      rw [List.foldlM_cons, step?, lookup_eq_of_perm perm distinct key]
      exact found
  | @inner first path before after u u' new reordered ih =>
    cases segments with
    | nil =>
      rw [← Option.some.inj found]
      exact ⟨_, rfl, .inr ⟨_, List.suffix_refl _, .inner new reordered⟩⟩
    | cons key rest =>
      rw [List.foldlM_cons, step?, lookup_append, lookup_cons] at found
      rw [List.foldlM_cons, step?, lookup_append, lookup_cons]
      by_cases same : first = key
      · subst same
        rw [new, if_pos rfl] at found ⊢
        obtain ⟨w', found', related⟩ := ih found
        refine ⟨w', found', related.imp_right ?_⟩
        rintro ⟨rest, suffix, reordered⟩
        exact ⟨rest, suffix.trans (List.suffix_cons _ _), reordered⟩
      · rw [if_neg same] at found ⊢
        exact ⟨w, found, .inl rfl⟩

/-- The path leads to the object with the reordered members. -/
theorem lookup_path (h : Reordered path v v') :
    ∃ members members', path.foldlM step? v = some (.object members) ∧
      path.foldlM step? v' = some (.object members') ∧ (members.map (·.1)).Nodup ∧
      members'.Perm members := by
  induction h with
  | here distinct perm => exact ⟨_, _, rfl, rfl, distinct, perm⟩
  | inner new _ ih =>
    obtain ⟨members, members', found, found', distinct, perm⟩ := ih
    refine ⟨members, members', ?_, ?_, distinct, perm⟩
    · rw [List.foldlM_cons, step?, lookup_append, lookup_cons, new, if_pos rfl]
      exact found
    · rw [List.foldlM_cons, step?, lookup_append, lookup_cons, new, if_pos rfl]
      exact found'

end Reordered

/-- Every value of a reordered document is one of the document, but for its own order. -/
theorem Reordered.mem_values {path : List String} {v v' w' : Json} (h : Reordered path v v')
    (mem : w' ∈ v'.values) :
    w' ∈ v.values ∨ ∃ rest w, rest <:+ path ∧ w ∈ v.values ∧ Reordered rest w w' := by
  induction h with
  | here distinct perm =>
    rcases List.mem_cons.mp mem with rfl | inside
    · exact .inr ⟨[], _, List.suffix_refl _, mem_values_self _, .here distinct perm⟩
    · obtain ⟨m, mem, inside⟩ := mem_memberValues.mp inside
      exact .inl (values_subset_of_mem_members (perm.mem_iff.mp mem) inside)
  | @inner key path before after u u' new reordered ih =>
    have same {m : String × Json} (mem : m ∈ before ++ (key, u) :: after) :=
      values_subset_of_mem_members mem
    rcases List.mem_cons.mp mem with rfl | inside
    · exact .inr ⟨_, _, List.suffix_refl _, mem_values_self _, .inner new reordered⟩
    · obtain ⟨m, mem, inside⟩ := mem_memberValues.mp inside
      rcases List.mem_append.mp mem with early | late
      · exact .inl (same (List.mem_append_left _ early) inside)
      · rcases List.mem_cons.mp late with rfl | late
        · have own : u.values ⊆ _ := same (List.mem_append_right _ List.mem_cons_self)
          rcases ih inside with inside | ⟨rest, w, suffix, inside, reordered⟩
          · exact .inl (own inside)
          · exact .inr ⟨rest, w, suffix.trans (List.suffix_cons _ _), own inside, reordered⟩
        · exact .inl (same (List.mem_append_right _ (List.mem_cons_of_mem _ late)) inside)

/-- A reordered object has the same keys. -/
theorem Reordered.keys_perm {path : List String} {v v' : Json} (h : Reordered path v v') :
    ((v'.members?.getD []).map (·.1)).Perm ((v.members?.getD []).map (·.1)) := by
  cases h with
  | here _ perm => exact perm.map _
  | inner => simp [members?]

end Json
end Scaffold

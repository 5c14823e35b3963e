/-
Pointers are read back as they were written: the segments of a pointer to a part are those of the
pointer to the whole, and one more.

Documents may differ in some members of one object, at the end of a path of keys. Segments that lead
neither to the object or what is around it nor to such a member lead to the same in both documents:
`Edited.foldlM_step?_eq`.
-/
import Scaffold.Json.Pointer
import Scaffold.Proofs.Text.Basic

namespace Scaffold
namespace Text

theorem replacePair_cons_of_ne {a x : Char} (h : x ≠ a) (b c : Char) (cs : List Char) :
    replacePair a b c (x :: cs) = x :: replacePair a b c cs := by
  cases cs with
  | nil => simp [replacePair]
  | cons y rest => rw [replacePair, if_neg fun both => h both.1]

end Text

namespace Json
namespace Pointer

/-- A character of which only the tilde is escaped. -/
def escapeTilde (c : Char) : List Char :=
  if c = '~' then ['~', '0'] else [c]

theorem replacePair_escape (segment : List Char) :
    Text.replacePair '~' '1' '/' (escape segment) = segment.flatMap escapeTilde := by
  induction segment with
  | nil => rfl
  | cons c rest ih =>
    rw [escape, List.flatMap_cons, List.flatMap_cons, ← ih]
    by_cases tilde : c = '~'
    · subst tilde
      show Text.replacePair '~' '1' '/' ('~' :: '0' :: escape rest) = '~' :: '0' :: _
      rw [Text.replacePair, if_neg (by simp), Text.replacePair_cons_of_ne (by simp)]
      rfl
    · by_cases slash : c = '/'
      · subst slash
        show Text.replacePair '~' '1' '/' ('~' :: '1' :: escape rest) = '/' :: _
        rw [Text.replacePair, if_pos ⟨rfl, rfl⟩]
        rfl
      · simp only [escapeChar, escapeTilde, if_neg tilde, if_neg slash, List.singleton_append]
        exact Text.replacePair_cons_of_ne tilde _ _ _

theorem replacePair_escapeTilde (segment : List Char) :
    Text.replacePair '~' '0' '~' (segment.flatMap escapeTilde) = segment := by
  induction segment with
  | nil => rfl
  | cons c rest ih =>
    rw [List.flatMap_cons]
    by_cases tilde : c = '~'
    · subst tilde
      show Text.replacePair '~' '0' '~' ('~' :: '0' :: rest.flatMap escapeTilde) = '~' :: rest
      rw [Text.replacePair, if_pos ⟨rfl, rfl⟩, ih]
    · rw [escapeTilde, if_neg tilde, List.singleton_append,
        Text.replacePair_cons_of_ne tilde, ih]

/-- A segment is read back as it was. -/
theorem unescape_escape (segment : List Char) : unescape (escape segment) = segment := by
  rw [unescape, replacePair_escape, replacePair_escapeTilde]

theorem slash_not_mem_escape (segment : List Char) : '/' ∉ escape segment := by
  intro h
  obtain ⟨c, _, mem⟩ := List.mem_flatMap.mp h
  unfold escapeChar at mem
  split at mem
  · simp at mem
  · split at mem
    · simp at mem
    · next slash => exact slash (List.mem_singleton.mp mem).symm

/-- The index of an item is read back as it was. -/
theorem index?_toString (i : Nat) : index? (toString i) = some i := by
  have digits : (toString i).toList = Nat.toDigits 10 i := Nat.toList_repr
  have read := Text.digits?_toString i
  rcases Nat.eq_zero_or_pos i with rfl | pos
  · rfl
  · unfold index?
    split
    · next zero => exact absurd (digits ▸ zero) (Text.toDigits_ne_zero_cons pos [])
    · next rest _ zero => exact absurd (digits ▸ zero) (Text.toDigits_ne_zero_cons pos _)
    · exact read

theorem toList_child (base segment : String) :
    (child base segment).toList = base.toList ++ '/' :: escape segment.toList := by
  simp [child]

/-- The last segment of a pointer to a part is the segment that leads to it. -/
theorem lastSegment_child (base segment : String) : lastSegment (child base segment) = segment := by
  have inside : ∀ c ∈ escape segment.toList, (c == '/') = false := fun c mem => by
    have : c ≠ '/' := fun same => slash_not_mem_escape segment.toList (same ▸ mem)
    simp [this]
  rw [lastSegment, toList_child, Text.afterLast_append_cons rfl inside, unescape_escape,
    String.ofList_toList]

/-- What is after the last of two equal separators, and what is before it. -/
theorem eq_of_append_cons {sep : Char} {front front' back back' : List Char} (last : sep ∉ back)
    (last' : sep ∉ back') (h : front ++ sep :: back = front' ++ sep :: back') :
    front = front' ∧ back = back' := by
  rcases List.append_eq_append_iff.mp h with ⟨between, longer, rest⟩ | ⟨between, longer, rest⟩
  · cases between with
    | nil => exact ⟨by simpa using longer.symm, by simpa using rest⟩
    | cons c cs =>
      obtain ⟨-, rfl⟩ := List.cons.inj rest
      exact absurd (by simp) last
  · cases between with
    | nil => exact ⟨by simpa using longer, by simpa using rest.symm⟩
    | cons c cs =>
      obtain ⟨-, rfl⟩ := List.cons.inj rest
      exact absurd (by simp) last'

/-- A pointer to a part says which part it is, and of what. -/
theorem child_inj {base base' segment segment' : String}
    (h : child base segment = child base' segment') : base = base' ∧ segment = segment' := by
  have chars := congrArg String.toList h
  rw [toList_child, toList_child] at chars
  obtain ⟨same_base, same_segment⟩ :=
    eq_of_append_cons (slash_not_mem_escape _) (slash_not_mem_escape _) chars
  have read := congrArg unescape same_segment
  rw [unescape_escape, unescape_escape] at read
  exact ⟨String.toList_injective same_base, String.toList_injective read⟩

/-- The segments of a pointer with one more. -/
theorem segments?_append {pointer : List Char} {segments : List String} (segment : String)
    (h : segments? (String.ofList pointer) = some segments) :
    segments? (String.ofList (pointer ++ '/' :: escape segment.toList)) =
      some (segments ++ [segment]) := by
  have last : Text.splitWhere (· == '/') (escape segment.toList) = [escape segment.toList] := by
    refine Text.splitWhere_eq_singleton fun c hc => ?_
    have : c ≠ '/' := fun same => slash_not_mem_escape segment.toList (same ▸ hc)
    simp [this]
  unfold segments? at h ⊢
  simp only [String.toList_ofList] at h ⊢
  cases pointer with
  | nil =>
    injection h with h
    subst h
    simp [last, unescape_escape]
  | cons c rest =>
    split at h
    · next none => cases none
    · next same =>
      injection same with slash same
      subst slash same
      injection h with h
      subst h
      simp [Text.splitWhere_append (p := (· == '/')), last, unescape_escape]
    · cases h

end Pointer
/-! ## Documents that differ -/

open Pointer

/-- The values differ at most in the members, with keys that meet the condition, of the object at
the end of the path. -/
inductive Edited (changed : String → Prop) : List String → Json → Json → Prop where
  | here {members members' : List (String × Json)}
      (others : ∀ key, ¬changed key → lookup key members' = lookup key members) :
      Edited changed [] (.object members) (.object members')
  | inner {key : String} {path : List String} {members members' : List (String × Json)}
      {v v' : Json} (found : lookup key members = some v) (found' : lookup key members' = some v')
      (others : ∀ other, other ≠ key → lookup other members' = lookup other members)
      (edited : Edited changed path v v') :
      Edited changed (key :: path) (.object members) (.object members')

namespace Edited

variable {changed : String → Prop} {path : List String} {v v' : Json}

theorem get?_eq {first key : String} (edited : Edited changed (first :: path) v v')
    (other : key ≠ first) : v'.get? key = v.get? key := by
  cases edited with
  | inner _ _ others _ => exact others key other

theorem isSome_get? {first : String} (edited : Edited changed (first :: path) v v') (key : String) :
    (v'.get? key).isSome = (v.get? key).isSome := by
  cases edited with
  | @inner _ _ members members' _ _ found found' others _ =>
    show (lookup key members').isSome = (lookup key members).isSome
    by_cases same : key = first
    · rw [same, found, found']
      rfl
    · rw [others key same]

/-- What is neither on the path nor at a changed member is the same. -/
theorem foldlM_step?_eq (edited : Edited changed path v v') {segments : List String}
    (around : ¬segments <+: path) (inside : ∀ key, changed key → ¬path ++ [key] <+: segments) :
    segments.foldlM step? v' = segments.foldlM step? v := by
  induction edited generalizing segments with
  | here others =>
    cases segments with
    | nil => exact absurd (List.prefix_refl []) around
    | cons key rest =>
      have unchanged : ¬changed key := fun h => inside key h ⟨rest, rfl⟩
      rw [List.foldlM_cons, List.foldlM_cons, step?, others key unchanged, step?]
  | @inner first path _ _ v v' found found' others _ ih =>
    cases segments with
    | nil => exact absurd List.nil_prefix around
    | cons key rest =>
      by_cases same : key = first
      · subst same
        have rest_eq : rest.foldlM step? v' = rest.foldlM step? v :=
          ih (fun h => around (List.prefix_cons_inj key |>.mpr h))
            fun key' h => fun pre => inside key' h (List.prefix_cons_inj key |>.mpr pre)
        rw [List.foldlM_cons, List.foldlM_cons, step?, found', step?, found]
        exact rest_eq
      · rw [List.foldlM_cons, List.foldlM_cons, step?, others key same, step?]

end Edited

end Json
end Scaffold

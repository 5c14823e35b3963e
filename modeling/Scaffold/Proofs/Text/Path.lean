/-
Paths part by part: the path of a plain name in a directory has the parts of the directory and then
the name, so equal paths have equal directories and equal names.

A joined path stays below the directory it starts from exactly if both of its parts do
(`isBelow_join_iff`). What a file name is made of can hold slashes, and the name is such a path exactly if
what is before them leads nowhere else (`isBelow_append_iff`).
-/
import Mathlib.Data.List.Basic
import Scaffold.Proofs.Text.Basic
import Scaffold.Text.Path

namespace Scaffold
namespace Path

open Text

/-! ## Parts -/

/-- A name that is one part of a path. -/
structure IsPlain (name : String) : Prop where
  visible : name ≠ ""
  proper : name ≠ "."
  whole : '/' ∉ name.toList

/-- What stands between the slashes of a path. -/
def parts (path : String) : List String :=
  (split (· == '/') path).filter (!·.isEmpty)

/-- The parts that say something, of a path that is absolute or not. -/
def clean (absolute : Bool) : List String → List String
  | "." :: rest => if absolute then rest.filter (· != ".") else "." :: rest.filter (· != ".")
  | parts => parts.filter (· != ".")

theorem components_eq (path : String) : components path = clean (isAbsolute path) (parts path) := by
  unfold components clean parts
  rfl

theorem clean_of_ne {absolute : Bool} {parts : List String} (other : parts.head? ≠ some ".") :
    clean absolute parts = parts.filter (· != ".") := by
  unfold clean
  split
  · exact absurd rfl other
  · rfl

theorem clean_append (absolute : Bool) (parts : List String) {name : String} (proper : name ≠ ".") :
    clean absolute (parts ++ [name]) = clean absolute parts ++ [name] := by
  have kept : [name].filter (· != ".") = [name] := by simp [proper]
  by_cases dot : parts.head? = some "."
  · obtain ⟨rest, rfl⟩ := List.head?_eq_some_iff.mp dot
    cases absolute <;> simp [clean, kept]
  · have other : (parts ++ [name]).head? ≠ some "." := by
      cases parts with
      | nil => simpa using proper
      | cons first rest => exact dot
    rw [clean_of_ne dot, clean_of_ne other, List.filter_append, kept]

theorem parts_append (a b : String) : parts (a ++ "/" ++ b) = parts a ++ parts b := by
  have cut : (a ++ "/" ++ b).toList = a.toList ++ '/' :: b.toList := by simp
  rw [parts, split, cut, splitWhere_append (by decide), List.map_append, List.filter_append]
  rfl

theorem parts_of_whole {name : String} (whole : '/' ∉ name.toList) :
    parts name = [name].filter (!·.isEmpty) := by
  have one : splitWhere (· == '/') name.toList = [name.toList] :=
    splitWhere_eq_singleton fun c mem => beq_eq_false_iff_ne.mpr fun slash => whole (slash ▸ mem)
  simp [parts, split, one]

theorem IsPlain.parts {name : String} (plain : IsPlain name) : parts name = [name] := by
  simp [parts_of_whole plain.whole, plain.visible]

theorem isAbsolute_of_whole {name : String} (whole : '/' ∉ name.toList) :
    isAbsolute name = false := by
  rw [isAbsolute, startsWith]
  cases chars : name.toList with
  | nil => rfl
  | cons c cs =>
    have other : c ≠ '/' := by
      rintro rfl
      exact whole (chars ▸ List.mem_cons_self)
    simp [List.isPrefixOf, Ne.symm other]

theorem IsPlain.isAbsolute {name : String} (plain : IsPlain name) : isAbsolute name = false :=
  isAbsolute_of_whole plain.whole

theorem isAbsolute_append {dir : String} (visible : dir ≠ "") (name : String) :
    isAbsolute (dir ++ name) = isAbsolute dir := by
  have chars : dir.toList ≠ [] := fun none => visible (String.toList_eq_nil_iff.mp none)
  obtain ⟨c, cs, first⟩ := List.exists_cons_of_ne_nil chars
  simp [isAbsolute, startsWith, String.toList_append, first, List.isPrefixOf]

theorem slash_notMem_of_mem_parts {path part : String} (mem : part ∈ parts path) :
    '/' ∉ part.toList := by
  intro slash
  obtain ⟨piece, piece_mem, rfl⟩ := List.mem_map.mp (List.mem_filter.mp mem).1
  rw [String.toList_ofList] at slash
  exact absurd (of_mem_splitWhere piece_mem slash).2 (by decide)

variable {dir name : String}

/-- The directory and the path below it are joined by one slash, which may be there already. -/
theorem join_eq (visible : dir ≠ "") (relative : isAbsolute name = false) :
    ∃ front, dir = front ++ "/" ∧ join dir name = front ++ "/" ++ name ∨
      join dir name = dir ++ "/" ++ name := by
  by_cases closed : endsWith "/" dir = true
  · obtain ⟨front, chars⟩ := List.isSuffixOf_iff_suffix.mp closed
    have same : dir = String.ofList front ++ "/" := by
      rw [← String.toList_inj, ← chars]
      simp
    refine ⟨String.ofList front, .inl ⟨same, ?_⟩⟩
    rw [join, relative, if_neg (by simpa using visible), if_pos closed, ← same]
  · refine ⟨"", .inr ?_⟩
    rw [join, relative, if_neg (by simpa using visible), if_neg closed]

theorem join_of_empty (name : String) : join "" name = name := by
  simp [join]

theorem parts_join (dir : String) (relative : isAbsolute name = false) :
    parts (join dir name) = parts dir ++ parts name := by
  by_cases visible : dir = ""
  · rw [visible, join_of_empty]
    rfl
  · obtain ⟨front, ⟨same, joined⟩ | joined⟩ := join_eq visible relative
    · have front_parts : parts dir = parts front := by
        have closed := parts_append front ""
        rw [String.append_empty] at closed
        rw [same, closed]
        exact List.append_nil _
      rw [joined, parts_append, front_parts]
    · rw [joined, parts_append]

theorem isAbsolute_join (dir : String) (relative : isAbsolute name = false) :
    isAbsolute (join dir name) = isAbsolute dir := by
  by_cases visible : dir = ""
  · rw [visible, join_of_empty, relative]
    rfl
  · obtain ⟨front, ⟨same, joined⟩ | joined⟩ := join_eq visible relative
    · rw [joined, ← same, isAbsolute_append visible]
    · rw [joined, String.append_assoc, isAbsolute_append visible]

theorem components_join (dir : String) (plain : IsPlain name) :
    components (join dir name) = components dir ++ [name] := by
  rw [components_eq, components_eq, parts_join dir plain.isAbsolute, plain.parts,
    isAbsolute_join dir plain.isAbsolute, clean_append _ _ plain.proper]

theorem join_inj {dir' name' : String} (plain : IsPlain name) (plain' : IsPlain name')
    (same : components (join dir name) = components (join dir' name')) :
    components dir = components dir' ∧ name = name' := by
  rw [components_join dir plain, components_join dir' plain'] at same
  obtain ⟨dirs, names⟩ := List.append_inj' same rfl
  exact ⟨dirs, List.singleton_injective names⟩

/-! ## Paths that stay below -/

/-- A relative path that never goes up. -/
def IsBelow (path : String) : Prop :=
  isAbsolute path = false ∧ ".." ∉ parts path

instance (path : String) : Decidable (IsBelow path) :=
  inferInstanceAs (Decidable (_ ∧ _))

variable {ending : String}

theorem isBelow_join_iff : IsBelow (join dir name) ↔ IsBelow dir ∧ IsBelow name := by
  cases absolute : isAbsolute name with
  | true =>
    have own : join dir name = name := by simp [join, absolute]
    have outside : ¬IsBelow name := fun below => by
      rw [below.1] at absolute
      cases absolute
    rw [own, and_iff_right_of_imp fun below => absurd below outside]
  | false =>
    unfold IsBelow
    rw [isAbsolute_join dir absolute, parts_join dir absolute, List.mem_append, not_or]
    simp only [absolute, true_and]
    exact and_assoc.symm

/-- A name without a slash is one part of a path, or none. -/
theorem isBelow_of_whole (whole : '/' ∉ name.toList) (other : name ≠ "..") : IsBelow name := by
  refine ⟨isAbsolute_of_whole whole, fun up => ?_⟩
  rw [parts_of_whole whole] at up
  exact other (List.mem_singleton.mp (List.mem_of_mem_filter up)).symm

theorem parts_ne_nil (relative : isAbsolute name = false) (visible : name ≠ "") : parts name ≠ [] := by
  obtain ⟨c, cs, chars⟩ := List.exists_cons_of_ne_nil (mt String.toList_eq_nil_iff.mp visible)
  have other : (c == '/') = false := by
    refine beq_eq_false_iff_ne.mpr ?_
    rintro rfl
    have absolute : isAbsolute name = true := by simp [isAbsolute, startsWith, chars, List.isPrefixOf]
    rw [relative] at absolute
    cases absolute
  obtain ⟨w, ws, pieces⟩ := splitWhere_head (p := (· == '/')) other cs
  rw [parts, split, chars, pieces, List.map_cons, List.filter_cons_of_pos (by simp)]
  exact List.cons_ne_nil _ _

theorem endsWith_join_empty (visible : dir ≠ "") : endsWith "/" (join dir "") = true := by
  have other : (isAbsolute "" || dir.isEmpty) = false := by
    rw [Bool.or_eq_false_iff]
    exact ⟨by decide, by simpa using visible⟩
  rw [join, other, if_neg Bool.false_ne_true]
  split
  · next closed =>
    rw [String.append_empty]
    exact closed
  · simp [endsWith]

/-! ## Beginnings of file names -/

/-- A text whose last part, when it is continued, stays in the directory that it starts from. -/
def Leads (name : String) : Prop :=
  isAbsolute name = false ∧ ".." ∉ (split (· == '/') name).dropLast

instance (name : String) : Decidable (Leads name) :=
  inferInstanceAs (Decidable (_ ∧ _))

theorem isAbsolute_append_of_whole (whole : '/' ∉ ending.toList) :
    isAbsolute (name ++ ending) = isAbsolute name := by
  by_cases visible : name = ""
  · rw [visible, String.empty_append, isAbsolute_of_whole whole]
    rfl
  · exact isAbsolute_append visible ending

/-- An ending that is long enough makes no two dots of the last part. -/
theorem isBelow_append_iff (whole : '/' ∉ ending.toList) (long : 3 ≤ ending.toList.length) :
    IsBelow (name ++ ending) ↔ Leads name := by
  obtain ⟨front, last, own, pieces⟩ := splitWhere_append_inside (p := (· == '/'))
    (fun c mem => beq_eq_false_iff_ne.mpr fun slash => whole (slash ▸ mem)) name.toList
  have other : ".." ≠ String.ofList (last ++ ending.toList) := by
    intro same
    have length := congrArg (·.toList.length) same
    have two : "..".toList.length = 2 := by decide
    simp only [String.toList_ofList, List.length_append, two] at length
    omega
  have not_last : ".." ∉ [String.ofList (last ++ ending.toList)].filter (!·.isEmpty) := fun up =>
    other (List.mem_singleton.mp (List.mem_of_mem_filter up))
  have before : (split (· == '/') name).dropLast = front.map String.ofList := by
    simp [split, own]
  have visible : (!"..".isEmpty) = true := by decide
  unfold IsBelow Leads
  rw [isAbsolute_append_of_whole whole, before, parts, split, String.toList_append, pieces,
    List.map_append, List.map_singleton, List.filter_append, List.mem_append, or_iff_left not_last,
    List.mem_filter, and_iff_left visible]

end Path
end Scaffold

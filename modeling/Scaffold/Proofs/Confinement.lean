/-
Files are only written below the root of an emission if their paths stay below it (`find?_emit`),
whether or not existing files are to be overwritten: every step of a way that only goes down stays inside
(`find?_makeWay`), and the way to the root is there when the first file is written.
-/
import Scaffold.Proofs.Emission
import Scaffold.Proofs.Text.Path

namespace Scaffold

/-! ## Places inside another one -/

namespace Place

/-- A place that names lead down to. -/
def Inside (base place : Place) : Prop :=
  ∃ names, (∀ name ∈ names, name ≠ ".." ∧ name ≠ "/") ∧ place = base ++ names

variable {base here : Place} {part : String}

theorem Inside.refl (base : Place) : Inside base base :=
  ⟨[], List.forall_mem_nil _, (List.append_nil base).symm⟩

theorem Inside.child (inside : Inside base here) (down : part ≠ ".." ∧ part ≠ "/") :
    Inside base (here.child part) := by
  obtain ⟨names, proper, rfl⟩ := inside
  refine ⟨names ++ [part], fun name mem => ?_, List.append_assoc ..⟩
  rcases List.mem_append.mp mem with old | new
  · exact proper name old
  · rw [List.mem_singleton.mp new]
    exact down

theorem Inside.next (inside : Inside base here) (down : part ≠ ".." ∧ part ≠ "/") :
    Inside base (here.next part) := by
  rw [Place.next, if_neg (by simpa using down.1 : ¬(part == "..") = true)]
  split
  · exact inside
  · exact inside.child down

end Place

namespace FileTree

variable {t : FileTree} {base here place : Place} {parts : List String} {root path : String}

/-! ## Ways down -/

theorem find?_makeWay (inside : base.Inside here) (down : ∀ part ∈ parts, part ≠ ".." ∧ part ≠ "/")
    (outside : ¬base.Inside place) :
    (t.makeWay here parts).1.find? place = t.find? place ∧
      ∀ goal, (t.makeWay here parts).2 = some goal → base.Inside goal := by
  induction parts generalizing t here with
  | nil =>
    rw [makeWay]
    refine ⟨rfl, fun goal reached => ?_⟩
    split at reached
    · cases reached
      exact inside
    · cases reached
  | cons part rest ih =>
    have later : ∀ part ∈ rest, part ≠ ".." ∧ part ≠ "/" := fun other mem =>
      down other (List.mem_cons_of_mem part mem)
    have stuck (goal : Place) (reached : none = some goal) : base.Inside goal := by cases reached
    rw [makeWay]
    split
    · exact ⟨rfl, stuck⟩
    · next next entered =>
      obtain ⟨-, rfl⟩ := enter_eq_some_iff.mp entered
      have onwards := inside.next (down part List.mem_cons_self)
      split
      · exact ih onwards later
      · next missing =>
        split
        · exact ⟨rfl, stuck⟩
        · -- Only the next place is new, and it is inside.
          have own : (here.next part).isGiven = false := isGiven_eq_false (t := t) (by simp [missing])
          have other : place ≠ here.next part := by
            rintro rfl
            exact outside onwards
          have set : (t.set (here.next part) .directory).find? place = t.find? place := by
            rw [find?_set own, if_neg other]
          rw [← set]
          exact ih onwards later

theorem find?_writeIn (name text : String) (other : place ≠ here.child name) :
    (t.writeIn here name text).1.find? place = t.find? place := by
  unfold writeIn
  simp only
  split
  · rfl
  · next free =>
    simp only [Bool.or_eq_true, decide_eq_true_eq, not_or] at free
    rw [find?_set (isGiven_eq_false free.1.2), if_neg other]

/-- A file at the end of a way down is written inside the place where the way starts. -/
theorem GoesDown.find?_write {front back : List String} (way : t.GoesDown path front back base)
    (some_part : back ≠ []) (text : String) (outside : ¬base.Inside place) :
    (t.write path text).1.find? place = t.find? place := by
  obtain ⟨above, name, rfl⟩ := (List.eq_nil_or_concat' back).resolve_left some_part
  have whole : (Place.way path).2 = (front ++ above) ++ [name] := by rw [way.whole, List.append_assoc]
  have above_down : ∀ part ∈ above, part ≠ ".." ∧ part ≠ "/" := fun part mem =>
    way.down part (List.mem_append_left _ mem)
  obtain ⟨same, goals⟩ := find?_makeWay (t := t) (.refl base) above_down outside
  have made := makeWay_append way.reached way.directory above
  unfold write
  simp only [whole, List.getLast?_concat, List.dropLast_concat, made]
  split
  · next t' directory run =>
    rw [run] at same goals
    rw [← same]
    refine find?_writeIn name text ?_
    rintro rfl
    exact outside ((goals directory rfl).child (way.down name (by simp)))
  · next t' run =>
    rw [run] at same
    exact same

/-- A path that stays below leads down from the root, unless there is none. -/
theorem goesDown_join_of_below (base : t.HasDirectory root) (below : Path.IsBelow path) :
    ∃ back, t.GoesDown (Path.join root path) (Path.parts root) back (Place.ofPath root) ∧
      (back = [] → Path.join root path = "") := by
  have down (part : String) (mem : part ∈ Path.parts path) : part ≠ ".." ∧ part ≠ "/" := by
    refine ⟨?_, ?_⟩
    · rintro rfl
      exact below.2 mem
    · rintro rfl
      exact Path.slash_notMem_of_mem_parts mem (by decide)
  refine ⟨_, goesDown_of_parts (Path.parts_join root below.1) (base.reached_join below.1)
    base.parts.2 down, fun none => ?_⟩
  -- Only an empty path has no parts, and then the slash behind the root is a step, unless the root is
  -- empty, too.
  obtain ⟨no_part, no_slash⟩ := List.append_eq_nil_iff.mp none
  have empty : path = "" := by
    by_contra visible
    exact Path.parts_ne_nil below.1 visible no_part
  rw [empty] at no_slash ⊢
  by_contra visible
  rw [if_pos (Path.endsWith_join_empty fun root_empty => visible (by rw [root_empty, Path.join_of_empty]))]
    at no_slash
  cases no_slash

/-- What is written below a root leaves all that is outside as it is. -/
theorem find?_write (base : t.HasDirectory root) (below : Path.IsBelow path) (text : String)
    (outside : ¬(Place.ofPath root).Inside place) :
    (t.write (Path.join root path) text).1.find? place = t.find? place := by
  obtain ⟨back, way, nowhere⟩ := goesDown_join_of_below base below
  by_cases none : back = []
  · rw [nowhere none]
    rfl
  · exact way.find?_write none text outside

end FileTree

/-! ## Emissions -/

namespace Emission

variable {t : FileTree} {root : String} {files : List GeneratedFile} {place : Place}

theorem find?_step (base : t.HasDirectory root) {f : GeneratedFile} (below : Path.IsBelow f.path)
    (force : Bool) (outside : ¬(Place.ofPath root).Inside place) :
    (step root force t f).1.find? place = t.find? place := by
  unfold step
  simp only
  split
  · rfl
  · exact FileTree.find?_write base below f.content outside

/-- The root stays where it is, whatever is written. -/
theorem hasDirectory_step (rooted : t.Rooted) (base : t.HasDirectory root) (force : Bool)
    (f : GeneratedFile) :
    (step root force t f).1.Rooted ∧ (step root force t f).1.HasDirectory root := by
  unfold step
  simp only
  split
  · exact ⟨rooted, base⟩
  · obtain ⟨rooted', kept⟩ := FileTree.directory_of_write rooted (Path.join root f.path) f.content
    exact ⟨rooted', base.of_kept kept⟩

theorem find?_run (rooted : t.Rooted) (base : t.HasDirectory root)
    (below : ∀ f ∈ files, Path.IsBelow f.path) (force : Bool)
    (outside : ¬(Place.ofPath root).Inside place) :
    (run root force t files).1.find? place = t.find? place := by
  induction files generalizing t with
  | nil => rfl
  | cons f rest ih =>
    obtain ⟨rooted', base'⟩ := hasDirectory_step rooted base force f
    have later := ih rooted' base' fun g mem => below g (List.mem_cons_of_mem f mem)
    exact later.trans (find?_step base (below f List.mem_cons_self) force outside)

/-- Outside of its root an emission of files that stay below it changes nothing but what making the root
does. -/
theorem find?_emit (rooted : t.Rooted) (below : ∀ f ∈ files, Path.IsBelow f.path) (force : Bool)
    (outside : ¬(Place.ofPath root).Inside place) :
    (emit t files root force).1.find? place = (t.makeDirectory root).1.find? place := by
  unfold emit
  cases made : t.makeDirectory root with
  | mk t' done =>
    cases done with
    | false => rfl
    | true =>
      obtain ⟨-, rooted', base⟩ := FileTree.hasDirectory_of_makeDirectory rooted made
      exact find?_run rooted' base below force outside

end Emission
end Scaffold

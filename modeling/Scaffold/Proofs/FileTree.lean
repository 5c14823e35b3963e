/-
What writing does to a tree of files. Everything lies in a directory (`FileTree.Rooted`), and trees only
grow where nothing was: directories are made where they are missing (`made_makeWay`), and a file is written
in the place where its path leads afterwards (`wrote_of_write`). From a directory all ways up are there
(`Rooted.foldlM_up`), and a way down to one is (`Rooted.foldlM_down`).
-/
import Mathlib.Data.List.Induction
import Mathlib.Data.List.TakeWhile
import Scaffold.FileTree
import Scaffold.Proofs.Text.Path

namespace Scaffold

namespace Place

variable {here : Place} {name : String}

/-- Where one step leads. -/
def next (here : Place) (part : String) : Place :=
  if part == "." then here else if part == ".." then here.above else here.child part

/-- Where a way leads. -/
def walk (here : Place) (parts : List String) : Place :=
  parts.foldl next here

@[simp] theorem dropLast_child (here : Place) (name : String) : (here.child name).dropLast = here :=
  List.dropLast_concat

theorem isGiven_child (up : name ≠ "..") (root : name ≠ "/") : (here.child name).isGiven = false := by
  have other : here ++ [name] ≠ ["/"] := by
    intro same
    rcases List.append_eq_singleton_iff.mp same with ⟨-, only⟩ | ⟨-, none⟩
    · exact root (List.singleton_inj.mp only)
    · cases none
  simp [isGiven, child, other, up]

theorem isGiven_above (given : here.isGiven = true) : here.above.isGiven = true := by
  unfold isGiven at given ⊢
  unfold above
  split
  · exact given
  · next other =>
    have ups : here.all (· == "..") = true := by
      rw [Bool.or_eq_true] at given
      exact given.resolve_left other
    simp [ups]

theorem above_of_not_given (own : here.isGiven = false) : here.above = here.dropLast := by
  rw [isGiven, Bool.or_eq_false_iff] at own
  rw [above, own.1, own.2]
  rfl

end Place

namespace FileTree

variable {t t' : FileTree} {here place : Place} {n : Node} {part path text : String}

/-- Everything lies in a directory. -/
def Rooted (t : FileTree) : Prop :=
  ∀ e ∈ t.nodes, e.1.isGiven = true ∨ t.find? e.1.dropLast = some .directory

instance : Decidable t.Rooted :=
  inferInstanceAs (Decidable (∀ e ∈ t.nodes, _))

/-- What is in a tree is in the other one too, as it is. -/
def Grows (t t' : FileTree) : Prop :=
  ∀ place n, t.find? place = some n → t'.find? place = some n

theorem Grows.refl (t : FileTree) : t.Grows t := fun _ _ found => found

theorem Grows.trans {t'' : FileTree} (h : t.Grows t') (h' : t'.Grows t'') : t.Grows t'' :=
  fun place n found => h' place n (h place n found)

theorem Grows.find?_eq_none (grows : t.Grows t') (free : t'.find? place = none) :
    t.find? place = none := by
  refine Option.eq_none_iff_forall_ne_some.mpr fun n found => ?_
  rw [grows place n found] at free
  cases free

/-! ## Places of a tree -/

theorem find?_of_isGiven (given : here.isGiven = true) : t.find? here = some .directory := by
  rw [find?, if_pos given]

theorem isGiven_eq_false (kept : t.find? here ≠ some .directory) : here.isGiven = false := by
  by_contra given
  exact kept (find?_of_isGiven (by simpa using given))

theorem find?_set (own : place.isGiven = false) (q : Place) :
    (t.set place n).find? q = if q = place then some n else t.find? q := by
  have others : (t.nodes.filter (·.1 != place)).lookup q =
      if q = place then none else t.nodes.lookup q := by
    induction t.nodes with
    | nil => simp
    | cons e rest ih =>
      obtain ⟨p, m⟩ := e
      by_cases same : p = place
      · rw [List.filter_cons_of_neg (by simp [same]), ih, List.lookup_cons]
        by_cases there : q = place
        · rw [if_pos there, if_pos there]
        · rw [if_neg there, if_neg there, beq_eq_false_iff_ne.mpr (same ▸ there)]
      · rw [List.filter_cons_of_pos (by simpa using same), List.lookup_cons, List.lookup_cons, ih]
        by_cases here : q = p
        · simp [here, same]
        · rw [beq_eq_false_iff_ne.mpr here]
  unfold find? set
  by_cases given : q.isGiven = true
  · have other : q ≠ place := by
      rintro rfl
      rw [own] at given
      cases given
    rw [if_pos given, if_neg other, if_pos given]
  · rw [if_neg given, if_neg given, List.lookup_cons, others]
    by_cases same : q = place
    · simp [same]
    · rw [beq_eq_false_iff_ne.mpr same, if_neg same, if_neg same]

theorem grows_set (missing : t.find? place = none) (n : Node) : t.Grows (t.set place n) := by
  have own : place.isGiven = false := isGiven_eq_false (t := t) (by simp [missing])
  intro q m found
  rw [find?_set own, if_neg]
  · exact found
  · rintro rfl
    rw [missing] at found
    cases found

/-- What lies in a place that is not given lies in a directory. -/
theorem Rooted.above (rooted : t.Rooted) (found : (t.find? here).isSome) (own : here.isGiven = false) :
    t.find? here.dropLast = some .directory := by
  obtain ⟨n, found⟩ := Option.isSome_iff_exists.mp found
  rw [find?, own, if_neg Bool.false_ne_true] at found
  have listed : (here, n) ∈ t.nodes := by
    obtain ⟨before, after, whole, -⟩ := List.lookup_eq_some_iff.mp found
    rw [whole]
    exact List.mem_append_right _ List.mem_cons_self
  exact (rooted _ listed).resolve_left (by simp [own])

theorem Rooted.directory_above (rooted : t.Rooted) (directory : t.find? here = some .directory) :
    t.find? here.above = some .directory := by
  by_cases given : here.isGiven = true
  · exact find?_of_isGiven (Place.isGiven_above given)
  · have own := Bool.of_not_eq_true given
    rw [Place.above_of_not_given own]
    exact rooted.above (by simp [directory]) own

/-- A tree stays rooted when something is set in a directory. -/
theorem Rooted.set (rooted : t.Rooted) (directory : t.find? here = some .directory)
    (kept : t.find? (here.child part) ≠ some .directory) (n : Node) :
    (t.set (here.child part) n).Rooted := by
  have own := isGiven_eq_false kept
  have directories (q : Place) (found : t.find? q = some .directory) :
      (t.set (here.child part) n).find? q = some .directory := by
    rw [find?_set own, if_neg]
    · exact found
    · rintro rfl
      exact kept found
  intro e mem
  rcases List.mem_cons.mp mem with rfl | old
  · rw [show (here.child part).dropLast = here from List.dropLast_concat]
    exact .inr (directories here directory)
  · exact (rooted e (List.mem_filter.mp old).1).imp_right (directories e.1.dropLast)

/-! ## Ways -/

theorem enter_eq_some_iff {goal : Place} :
    t.enter here part = some goal ↔ t.find? here = some .directory ∧ here.next part = goal := by
  unfold enter Place.next
  split
  · next directory => simp [directory]
  · next other => simp [other]

theorem enter_of_directory (directory : t.find? here = some .directory) (part : String) :
    t.enter here part = some (here.next part) :=
  enter_eq_some_iff.mpr ⟨directory, rfl⟩

variable {parts : List String}

theorem walk_of_foldlM {goal : Place} (found : parts.foldlM t.enter here = some goal) :
    here.walk parts = goal := by
  induction parts generalizing here with
  | nil => exact Option.some.inj found
  | cons part rest ih =>
    rw [List.foldlM_cons] at found
    obtain ⟨next, entered, found⟩ := Option.bind_eq_some_iff.mp found
    obtain ⟨-, rfl⟩ := enter_eq_some_iff.mp entered
    exact ih found

/-- A way is there as long as its directories are. -/
theorem foldlM_enter_of_kept
    (kept : ∀ place, t.find? place = some .directory → t'.find? place = some .directory) {goal : Place}
    (found : parts.foldlM t.enter here = some goal) : parts.foldlM t'.enter here = some goal := by
  induction parts generalizing here with
  | nil => exact found
  | cons part rest ih =>
    rw [List.foldlM_cons] at found ⊢
    obtain ⟨next, entered, found⟩ := Option.bind_eq_some_iff.mp found
    obtain ⟨directory, rfl⟩ := enter_eq_some_iff.mp entered
    rw [enter_of_directory (kept here directory)]
    exact ih found

theorem Grows.foldlM_enter (grows : t.Grows t') {goal : Place}
    (found : parts.foldlM t.enter here = some goal) : parts.foldlM t'.enter here = some goal :=
  foldlM_enter_of_kept (fun place => grows place _) found

theorem Grows.locate? (grows : t.Grows t') (found : t.locate? path = some place) :
    t'.locate? path = some place := by
  unfold FileTree.locate? at found ⊢
  split at found
  · cases found
  · next visible =>
    rw [if_neg visible]
    exact grows.foldlM_enter found

theorem Grows.node? (grows : t.Grows t') (found : t.node? path = some n) :
    t'.node? path = some n := by
  obtain ⟨place, located, found⟩ := Option.bind_eq_some_iff.mp found
  exact Option.bind_eq_some_iff.mpr ⟨place, grows.locate? located, grows place n found⟩

theorem Grows.isThere (grows : t.Grows t') (there : t.isThere path = true) :
    t'.isThere path = true := by
  obtain ⟨n, found⟩ := Option.isSome_iff_exists.mp there
  exact Option.isSome_iff_exists.mpr ⟨n, grows.node? found⟩

theorem locate?_eq (visible : path ≠ "") :
    t.locate? path = (Place.way path).2.foldlM t.enter (Place.way path).1 := by
  rw [locate?, if_neg (by simpa using visible)]

/-- A name in a directory that the way before it leads to. -/
theorem locate?_of_directory {above : List String} {name : String} {directory : Place}
    (whole : (Place.way path).2 = above ++ [name]) (proper : name ≠ "." ∧ name ≠ "..")
    (found : above.foldlM t.enter (Place.way path).1 = some directory)
    (there : t.find? directory = some .directory) : t.locate? path = some (directory.child name) := by
  have visible : path ≠ "" := by
    rintro rfl
    exact List.append_ne_nil_of_right_ne_nil _ (List.cons_ne_nil name []) whole.symm
  rw [locate?_eq visible, whole, List.foldlM_append, found]
  simp only [Option.bind_eq_bind, Option.bind_some, List.foldlM_cons, List.foldlM_nil]
  rw [enter_of_directory there, Place.next]
  simp [proper]

/-- From a directory one can go up as far as one likes. -/
theorem Rooted.foldlM_up (rooted : t.Rooted) (directory : t.find? here = some .directory)
    (up : ∀ part ∈ parts, part = "." ∨ part = "..") :
    parts.foldlM t.enter here = some (here.walk parts) ∧
      t.find? (here.walk parts) = some .directory := by
  induction parts generalizing here with
  | nil => exact ⟨rfl, directory⟩
  | cons part rest ih =>
    rw [List.foldlM_cons, enter_of_directory directory]
    refine ih ?_ fun other mem => up other (List.mem_cons_of_mem part mem)
    rcases up part List.mem_cons_self with rfl | rfl
    · exact directory
    · exact rooted.directory_above directory

/-- A way down to a directory is there: all that is above the directory is one. -/
theorem Rooted.foldlM_down (rooted : t.Rooted) (down : ∀ part ∈ parts, part ≠ ".." ∧ part ≠ "/")
    (directory : t.find? (here.walk parts) = some .directory) :
    parts.foldlM t.enter here = some (here.walk parts) := by
  induction parts using List.reverseRecOn with
  | nil => rfl
  | append_singleton parts part ih =>
    have last : here.walk (parts ++ [part]) = (here.walk parts).next part := by
      rw [Place.walk, List.foldl_append]
      rfl
    obtain ⟨up, root⟩ := down part (List.mem_append_right _ (List.mem_singleton_self part))
    have above : t.find? (here.walk parts) = some .directory := by
      rw [last, Place.next] at directory
      by_cases dot : part = "."
      · simpa [dot] using directory
      · rw [if_neg (by simpa using dot), if_neg (by simpa using up)] at directory
        have there : (t.find? ((here.walk parts).child part)).isSome := by simp [directory]
        have lies := rooted.above there (Place.isGiven_child up root)
        rwa [Place.dropLast_child] at lies
    rw [List.foldlM_append, ih (fun other mem => down other (List.mem_append_left _ mem)) above, last]
    simp only [Option.bind_eq_bind, Option.bind_some, List.foldlM_cons, List.foldlM_nil]
    rw [enter_of_directory above]
    rfl

/-! ## Directories -/

/-- What making a way comes to: the tree grows by directories, and the way is there if it says so. -/
structure Made (t : FileTree) (here : Place) (parts : List String) (t' : FileTree)
    (goal : Option Place) : Prop where
  grows : t.Grows t'
  rooted : t'.Rooted
  /-- No file is made. -/
  files : ∀ place text, t'.find? place = some (.file text) → t.find? place = some (.file text)
  goal : ∀ place, goal = some place →
    parts.foldlM t'.enter here = some place ∧ t'.find? place = some .directory

theorem made_makeWay (rooted : t.Rooted) (here : Place) (parts : List String) :
    t.Made here parts (t.makeWay here parts).1 (t.makeWay here parts).2 := by
  induction parts generalizing t here with
  | nil =>
    refine ⟨.refl t, rooted, fun _ _ found => found, fun place reached => ?_⟩
    rw [makeWay] at reached
    split at reached
    · next directory =>
      cases reached
      exact ⟨rfl, directory⟩
    · cases reached
  | cons part rest ih =>
    have stuck : t.Made here (part :: rest) t none :=
      ⟨.refl t, rooted, fun _ _ found => found, by simp⟩
    have step {t' : FileTree} {goal : Option Place} {next : Place}
        (entered : t.enter here part = some next) (grows : t.Grows t')
        (made : t'.Made next rest (t'.makeWay next rest).1 goal)
        (files : ∀ place text, t'.find? place = some (.file text) →
          t.find? place = some (.file text)) :
        t.Made here (part :: rest) (t'.makeWay next rest).1 goal := by
      refine ⟨grows.trans made.grows, made.rooted, fun place text found =>
        files place text (made.files place text found), fun place reached => ?_⟩
      obtain ⟨directory, rfl⟩ := enter_eq_some_iff.mp entered
      rw [List.foldlM_cons, enter_of_directory (made.grows _ _ (grows _ _ directory))]
      exact made.goal place reached
    rw [makeWay]
    split
    · exact stuck
    · next next entered =>
      split
      · exact step entered (.refl t) (ih rooted next) fun _ _ found => found
      · next missing =>
        split
        · exact stuck
        · -- Only a step down can lead to a place where nothing is.
          obtain ⟨directory, rfl⟩ := enter_eq_some_iff.mp entered
          have below : here.next part = here.child part := by
            unfold Place.next at missing ⊢
            split
            · next dot =>
              rw [if_pos dot, directory] at missing
              cases missing
            · next other =>
              split
              · next up =>
                rw [if_neg other, if_pos up, rooted.directory_above directory] at missing
                cases missing
              · rfl
          rw [below] at missing ⊢
          have grown := grows_set missing .directory
          have kept : t.find? (here.child part) ≠ some .directory := by simp [missing]
          refine step (below ▸ entered) grown (ih (rooted.set directory kept .directory) _)
            fun place text found => ?_
          rw [find?_set (isGiven_eq_false kept)] at found
          split at found
          · cases found
          · exact found

/-- A way that is there is not made again. -/
theorem makeWay_append {goal : Place} (found : parts.foldlM t.enter here = some goal)
    (directory : t.find? goal = some .directory) (more : List String) :
    t.makeWay here (parts ++ more) = t.makeWay goal more := by
  induction parts generalizing here with
  | nil =>
    cases found
    rfl
  | cons part rest ih =>
    rw [List.foldlM_cons] at found
    obtain ⟨next, entered, found⟩ := Option.bind_eq_some_iff.mp found
    have there : t.find? next = some .directory := by
      cases rest with
      | nil =>
        cases found
        exact directory
      | cons part rest =>
        rw [List.foldlM_cons] at found
        obtain ⟨_, onwards, -⟩ := Option.bind_eq_some_iff.mp found
        exact (enter_eq_some_iff.mp onwards).1
    rw [List.cons_append, makeWay, entered]
    simp only [there]
    exact ih found

theorem way_eq (path : String) :
    (Place.way path).2 =
      if Text.endsWith "/" path then Path.parts path ++ ["."] else Path.parts path := rfl

/-- There is a directory where a path leads. -/
def HasDirectory (t : FileTree) (path : String) : Prop :=
  ∃ place, (Place.way path).2.foldlM t.enter (Place.way path).1 = some place ∧
    t.find? place = some .directory

theorem HasDirectory.of_kept
    (kept : ∀ place, t.find? place = some .directory → t'.find? place = some .directory)
    (h : t.HasDirectory path) : t'.HasDirectory path := by
  obtain ⟨place, found, directory⟩ := h
  exact ⟨place, foldlM_enter_of_kept kept found, kept place directory⟩

theorem Grows.hasDirectory (grows : t.Grows t') (h : t.HasDirectory path) : t'.HasDirectory path :=
  h.of_kept fun place => grows place _

/-- Once a directory is made it is there, and it is not made again. -/
theorem hasDirectory_of_makeDirectory (rooted : t.Rooted)
    (made : t.makeDirectory path = (t', true)) : t.Grows t' ∧ t'.Rooted ∧ t'.HasDirectory path := by
  have way := made_makeWay rooted (Place.way path).1 (Place.way path).2
  have tree : (t.makeWay (Place.way path).1 (Place.way path).2).1 = t' := congrArg Prod.fst made
  have done : (t.makeWay (Place.way path).1 (Place.way path).2).2.isSome = true :=
    congrArg Prod.snd made
  rw [tree] at way
  obtain ⟨place, reached⟩ := Option.isSome_iff_exists.mp done
  exact ⟨way.grows, way.rooted, place, way.goal place reached⟩

theorem makeDirectory_of_hasDirectory (h : t.HasDirectory path) :
    t.makeDirectory path = (t, true) := by
  obtain ⟨place, found, directory⟩ := h
  have done := makeWay_append found directory []
  rw [List.append_nil, makeWay, if_pos directory] at done
  unfold makeDirectory
  simp only [done, Option.isSome_some]

/-! ## Files -/

/-- A written file: it is in the place where its path leads, in which no directory was, and all else
only grows. -/
structure Wrote (t : FileTree) (path text : String) (t' : FileTree) (directory : Place)
    (name : String) : Prop where
  rooted : t'.Rooted
  proper : name ≠ "." ∧ name ≠ ".."
  way : (Place.way path).2.getLast? = some name
  above : (Place.way path).1.walk (Place.way path).2.dropLast = directory
  located : t'.locate? path = some (directory.child name)
  written : t'.find? (directory.child name) = some (.file (some text))
  free : t.find? (directory.child name) = none ∨
    ∃ old, t.find? (directory.child name) = some (.file old)
  others : ∀ place n, place ≠ directory.child name → t.find? place = some n → t'.find? place = some n

/-- When a file is written, the way to its directory is made, and the file is set in it. -/
theorem makeWay_of_write (ok : t.write path text = (t', true)) :
    ∃ above name t₁ directory, (Place.way path).2 = above ++ [name] ∧ (name ≠ "." ∧ name ≠ "..") ∧
      t.makeWay (Place.way path).1 above = (t₁, some directory) ∧
        t₁.find? (directory.child name) ≠ some .directory ∧
          t' = t₁.set (directory.child name) (.file (some text)) := by
  unfold write at ok
  simp only at ok
  split at ok
  · cases ok
  · next name last =>
    obtain ⟨above, whole⟩ := List.getLast?_eq_some_iff.mp last
    rw [whole, List.dropLast_concat] at ok
    split at ok
    · next t₁ directory made =>
      unfold writeIn at ok
      simp only at ok
      split at ok
      · cases ok
      · next free =>
        simp only [Bool.or_eq_true, beq_iff_eq, decide_eq_true_eq, not_or] at free
        cases ok
        exact ⟨above, name, t₁, directory, whole, free.1.1, made, free.1.2, rfl⟩
    · cases ok

theorem wrote_of_write (rooted : t.Rooted) (ok : t.write path text = (t', true)) :
    ∃ directory name, t.Wrote path text t' directory name := by
  obtain ⟨above, name, t₁, directory, whole, proper, run, free, rfl⟩ := makeWay_of_write ok
  have made := made_makeWay rooted (Place.way path).1 above
  rw [run] at made
  obtain ⟨found, there⟩ := made.goal directory rfl
  have own := isGiven_eq_false free
  have kept (place : Place) (n : Node) (other : place ≠ directory.child name)
      (found : t₁.find? place = some n) :
      (t₁.set (directory.child name) (.file (some text))).find? place = some n := by
    rw [find?_set own, if_neg other]
    exact found
  refine ⟨directory, name, made.rooted.set there free _, proper, by simp [whole], ?_, ?_, ?_, ?_,
    fun place n other found => kept place n other (made.grows place n found)⟩
  · rw [whole, List.dropLast_concat]
    exact walk_of_foldlM found
  · have directories (place : Place) (is_directory : t₁.find? place = some .directory) :
        (t₁.set (directory.child name) (.file (some text))).find? place = some .directory :=
      kept place _ (fun same => free (same ▸ is_directory)) is_directory
    exact locate?_of_directory whole proper (foldlM_enter_of_kept directories found)
      (directories directory there)
  · rw [find?_set own, if_pos rfl]
  · cases before : t₁.find? (directory.child name) with
    | none => exact .inl (made.grows.find?_eq_none before)
    | some n =>
      cases n with
      | directory => exact absurd before free
      | file old => exact .inr ⟨old, made.files _ old before⟩

/-- A file that cannot be written leaves all that was there as it was. -/
theorem grows_of_write_eq_false (rooted : t.Rooted) (failed : t.write path text = (t', false)) :
    t.Grows t' ∧ t'.Rooted := by
  unfold write at failed
  simp only at failed
  split at failed
  · cases failed
    exact ⟨.refl t, rooted⟩
  · have made := made_makeWay rooted (Place.way path).1 (Place.way path).2.dropLast
    split at failed
    · next t₁ directory run =>
      rw [run] at made
      unfold writeIn at failed
      simp only at failed
      split at failed
      · cases failed
        exact ⟨made.grows, made.rooted⟩
      · cases failed
    · next t₁ run =>
      rw [run] at made
      cases failed
      exact ⟨made.grows, made.rooted⟩

theorem directory_of_write (rooted : t.Rooted) (path text : String) :
    (t.write path text).1.Rooted ∧ ∀ place, t.find? place = some .directory →
      (t.write path text).1.find? place = some .directory := by
  cases ok : t.write path text with
  | mk t' done =>
    cases done with
    | false =>
      obtain ⟨grows, rooted'⟩ := grows_of_write_eq_false rooted ok
      exact ⟨rooted', fun place => grows place _⟩
    | true =>
      obtain ⟨above, name, wrote⟩ := wrote_of_write rooted ok
      refine ⟨wrote.rooted, fun place directory => wrote.others place _ ?_ directory⟩
      rintro rfl
      rcases wrote.free with free | ⟨old, file⟩
      · rw [free] at directory
        cases directory
      · rw [file] at directory
        cases directory

end FileTree
end Scaffold

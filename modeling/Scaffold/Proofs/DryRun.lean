/-
A dry run against the run. A dry run looks at every file in the tree as it was; the run looks at it in a tree
that the files before it have changed. A write adds what its path passes (`FileTree.holds_write`), so what is
there at a turn is known beforehand (`Emission.Runs.skipped_iff`), and a dry run is right exactly if no file
that is missing comes about before its turn (`Emission.plan_eq_emit_iff`).
-/
import Scaffold.Proofs.Emission
import Scaffold.Proofs.Failing

namespace Scaffold

namespace Place

/-- The places that a path passes: where it starts, where it leads, and those between. -/
def stops (path : String) : List Place :=
  (way path).2.scanl next (way path).1

theorem start_mem_scanl (here : Place) (parts : List String) : here ∈ parts.scanl next here :=
  List.mem_of_head? List.head?_scanl

end Place

namespace FileTree

variable {t t' : FileTree} {here place : Place} {parts : List String} {path text root : String}

/-- Whether something is in a place. -/
def Holds (t : FileTree) (place : Place) : Prop :=
  (t.find? place).isSome = true

instance (place : Place) : Decidable (t.Holds place) :=
  inferInstanceAs (Decidable (_ = true))

theorem not_holds_iff : ¬t.Holds place ↔ t.find? place = none := by
  simp [Holds]

theorem Holds.of_directory (directory : t.find? place = some .directory) : t.Holds place := by
  rw [Holds, directory]
  rfl

/-! ## Ways and what they pass -/

/-- All that a way passes is there, if the way is. -/
theorem holds_of_foldlM {goal : Place} (found : parts.foldlM t.enter here = some goal)
    (there : t.Holds goal) : ∀ place ∈ parts.scanl Place.next here, t.Holds place := by
  induction parts generalizing here with
  | nil =>
    cases found
    simpa using there
  | cons part rest ih =>
    rw [List.foldlM_cons] at found
    obtain ⟨next, entered, found⟩ := Option.bind_eq_some_iff.mp found
    obtain ⟨directory, rfl⟩ := enter_eq_some_iff.mp entered
    rw [List.scanl_cons]
    intro place mem
    rcases List.mem_cons.mp mem with rfl | mem
    · exact .of_directory directory
    · exact ih found place mem

/-- A way that is made passes all that is made. -/
theorem mem_of_holds_makeWay (now : (t.makeWay here parts).1.Holds place) :
    t.Holds place ∨ place ∈ parts.scanl Place.next here := by
  induction parts generalizing t here with
  | nil => exact .inl now
  | cons part rest ih =>
    rw [List.scanl_cons, List.mem_cons]
    rw [makeWay] at now
    split at now
    · exact .inl now
    · next next entered =>
      obtain ⟨-, rfl⟩ := enter_eq_some_iff.mp entered
      split at now
      · exact (ih now).imp_right .inr
      · next missing =>
        split at now
        · exact .inl now
        · rcases ih now with there | mem
          · rw [Holds, find?_set (isGiven_eq_false (t := t) (by simp [missing]))] at there
            split at there
            · next same =>
              rw [same]
              exact .inr (.inr (Place.start_mem_scanl _ rest))
            · exact .inl there
          · exact .inr (.inr mem)

/-- Where all is there already, nothing is made. -/
theorem makeWay_of_holds (there : ∀ place ∈ parts.scanl Place.next here, t.Holds place) :
    (t.makeWay here parts).1 = t := by
  induction parts generalizing here with
  | nil => rfl
  | cons part rest ih =>
    rw [List.scanl_cons] at there
    rw [makeWay]
    split
    · rfl
    · next next entered =>
      obtain ⟨-, rfl⟩ := enter_eq_some_iff.mp entered
      have later := ih fun place mem => there place (List.mem_cons_of_mem here mem)
      split
      · exact later
      · next missing =>
        refine absurd missing (not_holds_iff.not.mp (not_not.mpr ?_))
        exact there _ (List.mem_cons_of_mem here (Place.start_mem_scanl _ rest))

/-- Making a way adds what it passes. -/
theorem holds_makeWay {t' : FileTree} {goal : Place} (rooted : t.Rooted)
    (made : t.makeWay here parts = (t', some goal)) (place : Place) :
    t'.Holds place ↔ t.Holds place ∨ place ∈ parts.scanl Place.next here := by
  have way := made_makeWay rooted here parts
  rw [made] at way
  refine ⟨fun now => mem_of_holds_makeWay (made ▸ now), fun h => ?_⟩
  rcases h with there | mem
  · obtain ⟨n, found⟩ := Option.isSome_iff_exists.mp there
    exact Option.isSome_of_eq_some (way.grows place n found)
  · obtain ⟨reached, directory⟩ := way.goal goal rfl
    exact holds_of_foldlM reached (.of_directory directory) place mem

theorem holds_makeDirectory (rooted : t.Rooted) (made : t.makeDirectory path = (t', true))
    (place : Place) : t'.Holds place ↔ t.Holds place ∨ place ∈ Place.stops path := by
  cases way : t.makeWay (Place.way path).1 (Place.way path).2 with
  | mk t₁ goal =>
    have done : (t₁, goal.isSome) = (t', true) := by
      rw [← made, makeDirectory]
      simp only [way]
    obtain ⟨rfl, reached⟩ := Prod.mk.inj done
    obtain ⟨goal, rfl⟩ := Option.isSome_iff_exists.mp reached
    exact holds_makeWay rooted way place

/-! ## Writing -/

/-- All that a path passes is there, if the path leads somewhere. -/
theorem holds_of_isThere (there : t.isThere path = true) : ∀ place ∈ Place.stops path, t.Holds place := by
  obtain ⟨n, found⟩ := Option.isSome_iff_exists.mp there
  obtain ⟨goal, located, found⟩ := Option.bind_eq_some_iff.mp found
  have visible : path ≠ "" := by
    rintro rfl
    cases located
  rw [locate?_eq visible] at located
  exact holds_of_foldlM located (Option.isSome_of_eq_some found)

/-- A written file is the last place that its path passes. -/
theorem stops_of_makeWay {t₁ : FileTree} {above : List String} {name : String} {directory : Place}
    (rooted : t.Rooted) (whole : (Place.way path).2 = above ++ [name])
    (proper : name ≠ "." ∧ name ≠ "..")
    (made : t.makeWay (Place.way path).1 above = (t₁, some directory)) :
    Place.stops path = above.scanl Place.next (Place.way path).1 ++ [directory.child name] := by
  have way := made_makeWay rooted (Place.way path).1 above
  rw [made] at way
  have goal : above.foldl Place.next (Place.way path).1 = directory :=
    walk_of_foldlM (way.goal directory rfl).1
  rw [Place.stops, whole, List.scanl_append, goal]
  simp [Place.next, proper]

/-- Writing a file adds what its path passes. -/
theorem holds_write (rooted : t.Rooted) (ok : t.write path text = (t', true)) (place : Place) :
    t'.Holds place ↔ t.Holds place ∨ place ∈ Place.stops path := by
  obtain ⟨above, name, t₁, directory, whole, proper, made, free, rfl⟩ := makeWay_of_write ok
  rw [stops_of_makeWay rooted whole proper made, List.mem_append, List.mem_singleton, ← or_assoc,
    ← holds_makeWay rooted made, Holds, find?_set (isGiven_eq_false free)]
  by_cases own : place = directory.child name
  · simp [own]
  · rw [if_neg own, or_iff_left own, Holds]

/-- Where a file can be written, its path leads to one already exactly if all that it passes is there. -/
theorem isThere_iff_of_write (rooted : t.Rooted) (ok : t.write path text = (t', true)) :
    t.isThere path = true ↔ ∀ place ∈ Place.stops path, t.Holds place := by
  refine ⟨holds_of_isThere, fun there => ?_⟩
  obtain ⟨above, name, t₁, directory, whole, proper, made, -, -⟩ := makeWay_of_write ok
  rw [stops_of_makeWay rooted whole proper made] at there
  -- All directories on the way are there, so that none was made.
  have same := makeWay_of_holds (t := t) fun place mem => there place (List.mem_append_left _ mem)
  have way := made_makeWay rooted (Place.way path).1 above
  rw [made] at way same
  obtain rfl : t₁ = t := same
  obtain ⟨reached, is_directory⟩ := way.goal directory rfl
  rw [isThere, node?, locate?_of_directory whole proper reached is_directory]
  exact there _ (List.mem_append_right _ (List.mem_singleton_self _))

end FileTree

namespace Emission

variable {root : String} {t t' : FileTree} {f : GeneratedFile} {fate : Fate} {force : Bool}
  {outcomes : List (GeneratedFile × Fate)} {files : List GeneratedFile} {report : Report}

/-! ## Turns -/

/-- A file that does not fail adds what its path passes, and it is skipped if all that was there. -/
theorem Step.holds (step : Step root f t t' fate) (rooted : t.Rooted) (ok : fate ≠ .failed) :
    (∀ place, t'.Holds place ↔ t.Holds place ∨ place ∈ Place.stops (Path.join root f.path)) ∧
      (fate = .skipped ↔ ∀ place ∈ Place.stops (Path.join root f.path), t.Holds place) := by
  cases step with
  | skipped there =>
    have all := FileTree.holds_of_isThere there
    exact ⟨fun place => (or_iff_left_of_imp (all place)).symm, by simpa using all⟩
  | failed missing grows rooted' => exact absurd rfl ok
  | written missing done =>
    refine ⟨FileTree.holds_write rooted done, ?_⟩
    rw [← FileTree.isThere_iff_of_write rooted done, missing]
    simp

/-- In a run without failures a file is skipped exactly if all that its path passes was there before, or
an earlier file of the run has passed it. -/
theorem Runs.skipped_iff (run : Runs root t outcomes t') (rooted : t.Rooted)
    (succeeded : ∀ o ∈ outcomes, o.2 ≠ .failed) (i : Nat) (h : i < outcomes.length) :
    outcomes[i].2 = .skipped ↔
      ∀ place ∈ Place.stops (Path.join root outcomes[i].1.path), t.Holds place ∨
        ∃ o ∈ outcomes.take i, place ∈ Place.stops (Path.join root o.1.path) := by
  induction run generalizing i with
  | done t => cases h
  | @step t t₁ t' f fate rest first later ih =>
    obtain ⟨adds, skipped⟩ := first.holds rooted (succeeded _ List.mem_cons_self)
    cases i with
    | zero => simpa using skipped
    | succ i =>
      have turn := ih (first.rooted rooted) (fun o mem => succeeded o (List.mem_cons_of_mem _ mem)) i
        (Nat.lt_of_succ_lt_succ h)
      simpa [adds, or_assoc] using turn

/-! ## Reports -/

/-- Two reports on the same files, of which the second skips at least what the first one skips, are equal
exactly if they say the same of each file. -/
theorem ofFates_eq_iff {α : Type} {items : List α} {path : α → String} {fate fate' : α → Fate}
    (succeeded : ∀ a ∈ items, fate a ≠ .failed ∧ fate' a ≠ .failed)
    (more : ∀ a ∈ items, fate a = .skipped → fate' a = .skipped) :
    Report.ofFates (items.map fun a => (path a, fate a)) =
        Report.ofFates (items.map fun a => (path a, fate' a)) ↔
      ∀ a ∈ items, (fate' a = .skipped → fate a = .skipped) := by
  constructor
  · intro same
    have lengths : (items.filter (fate · = .skipped)).length =
        (items.filter (fate' · = .skipped)).length := by
      have := congrArg (·.skipped.length) same
      simpa [Report.ofFates, List.filter_map, Function.comp_def] using this
    have first : items.filter (fate · = .skipped) =
        (items.filter (fate' · = .skipped)).filter (fate · = .skipped) := by
      rw [List.filter_filter]
      refine List.filter_congr fun a mem => ?_
      simpa using more a mem
    rw [first] at lengths
    intro a mem later
    have both := List.filter_sublist.eq_of_length lengths ▸
      List.mem_filter.mpr ⟨mem, decide_eq_true later⟩
    exact of_decide_eq_true (List.mem_filter.mp both).2
  · intro less
    refine congrArg Report.ofFates (List.map_congr_left fun a mem => Prod.ext rfl ?_)
    obtain ⟨ok, ok'⟩ := succeeded a mem
    have iff : fate a = .skipped ↔ fate' a = .skipped := ⟨more a mem, less a mem⟩
    cases h : fate a <;> cases h' : fate' a <;> simp_all

theorem failed_eq_nil_iff {fates : List (String × Fate)} :
    (Report.ofFates fates).failed = [] ↔ ∀ fate ∈ fates, fate.2 ≠ .failed := by
  simp [Report.ofFates]

/-- What can overwrite files skips none. -/
theorem run_forced (succeeded : ∀ fate ∈ (run root true t files).2, fate.2 ≠ .failed) :
    (run root true t files).2 = files.map fun f => (Path.join root f.path, .written) := by
  induction files generalizing t with
  | nil => rfl
  | cons f rest ih =>
    have first : (step root true t f).2 = (Path.join root f.path, .written) := by
      have ok := succeeded (step root true t f).2 List.mem_cons_self
      simp only [step, Bool.not_true, Bool.and_false, Bool.false_eq_true, if_false] at ok ⊢
      split at ok
      · next done => rw [if_pos done]
      · exact absurd rfl ok
    have others := ih fun fate mem => succeeded fate (List.mem_cons_of_mem _ mem)
    rw [List.map_cons, ← first, ← others]
    rfl

/-! ## Dry runs -/

/-- No file that is missing comes about before its turn: on its way is a place with nothing in it, which
neither the root nor an earlier file passes. -/
def Foreseen (t : FileTree) (root : String) (files : List GeneratedFile) : Prop :=
  ∀ i, (h : i < files.length) → t.isThere (Path.join root files[i].path) = true ∨
    ∃ place ∈ Place.stops (Path.join root files[i].path), ¬t.Holds place ∧
      ∀ path ∈ root :: (files.take i).map (Path.join root ·.path), place ∉ Place.stops path

instance (t : FileTree) (root : String) (files : List GeneratedFile) :
    Decidable (Foreseen t root files) :=
  inferInstanceAs (Decidable (∀ i, (h : i < files.length) → _))

/-- What a dry run says of one file. -/
def planned (t : FileTree) (root : String) (f : GeneratedFile) : Fate :=
  if t.isThere (Path.join root f.path) then .skipped else .written

theorem planned_eq_skipped_iff : planned t root f = .skipped ↔ t.isThere (Path.join root f.path) = true := by
  simp [planned]

theorem planned_ne_failed (t : FileTree) (root : String) (f : GeneratedFile) :
    planned t root f ≠ .failed := by
  unfold planned
  split <;> simp

theorem plan_eq (t : FileTree) (root : String) (outcomes : List (GeneratedFile × Fate)) :
    plan t (outcomes.map (·.1)) root false =
      .ofFates (outcomes.map fun o => (Path.join root o.1.path, planned t root o.1)) := by
  simp [plan, planned, Function.comp_def]

/-- A run without failures after a dry run: what the run skips is known from the tree as it was. -/
theorem Emits.skipped_iff (emits : Emits root t outcomes t') (rooted : t.Rooted)
    (succeeded : ∀ o ∈ outcomes, o.2 ≠ .failed) (i : Nat) (h : i < outcomes.length) :
    outcomes[i].2 = .skipped ↔
      ∀ place ∈ Place.stops (Path.join root outcomes[i].1.path), t.Holds place ∨
        ∃ path ∈ root :: ((outcomes.map (·.1)).take i).map (Path.join root ·.path),
          place ∈ Place.stops path := by
  obtain ⟨t₁, made, runs⟩ := emits
  have base := FileTree.holds_makeDirectory rooted made
  rw [runs.skipped_iff (FileTree.hasDirectory_of_makeDirectory rooted made).2.1 succeeded i h]
  simp [base, or_assoc, ← List.map_take]

theorem plan_eq_reportOf_iff (emits : Emits root t outcomes t') (rooted : t.Rooted)
    (succeeded : ∀ o ∈ outcomes, o.2 ≠ .failed) :
    plan t (outcomes.map (·.1)) root false = reportOf root outcomes ↔
      Foreseen t root (outcomes.map (·.1)) := by
  have skipped := emits.skipped_iff rooted succeeded
  rw [plan_eq, reportOf, ofFates_eq_iff fun o mem => ⟨planned_ne_failed t root o.1, succeeded o mem⟩]
  · rw [List.forall_mem_iff_getElem, Foreseen]
    simp only [List.length_map, List.getElem_map, planned_eq_skipped_iff]
    refine forall_congr' fun i => forall_congr' fun h => ?_
    rw [skipped i h, imp_iff_not_or, or_comm]
    push Not
    rfl
  · intro o mem there
    obtain ⟨i, h, rfl⟩ := List.getElem_of_mem mem
    rw [skipped i h]
    exact fun place mem =>
      .inl (FileTree.holds_of_isThere (planned_eq_skipped_iff.mp there) place mem)

/-- A dry run against a run in which every write succeeds: they report the same exactly if existing files are
overwritten, or no missing file comes about before its turn. -/
theorem plan_eq_emit_iff (rooted : t.Rooted) (done : (emit t files root force).2 = .ok report)
    (succeeded : report.failed = []) :
    plan t files root force = report ↔ force = true ∨ Foreseen t root files := by
  cases force with
  | true =>
    refine iff_of_true ?_ (.inl rfl)
    rw [emit] at done
    split at done
    · cases done
      rw [run_forced (failed_eq_nil_iff.mp succeeded)]
      simp [plan]
    · cases done
  | false =>
    have created : (t.makeDirectory root).2 = true := by
      by_contra missing
      rw [emit] at done
      split at done
      · next made => exact missing (by rw [made])
      · cases done
    obtain ⟨outcomes, t₁, rfl, emits, whole⟩ := emits_emit rooted created files
    rw [whole] at done
    obtain rfl : reportOf root outcomes = report := Except.ok.inj done
    have ok (o : GeneratedFile × Fate) (mem : o ∈ outcomes) : o.2 ≠ .failed :=
      failed_eq_nil_iff.mp succeeded _ (List.mem_map_of_mem mem)
    rw [plan_eq_reportOf_iff emits rooted ok]
    simp

/-- One file is there, and the other two are new and in two directories. -/
theorem plan_edited :
    ∃ report, edited.Rooted ∧
      (emit edited (⟨"c", "c/d.txt", "new"⟩ :: regenerated) "out" false).2 = .ok report ∧
        report.failed = [] ∧ Foreseen edited "out" (⟨"c", "c/d.txt", "new"⟩ :: regenerated) ∧
          plan edited (⟨"c", "c/d.txt", "new"⟩ :: regenerated) "out" false = report := by
  have rooted : edited.Rooted := by decide
  have foreseen : Foreseen edited "out" (⟨"c", "c/d.txt", "new"⟩ :: regenerated) := by
    decide
  have done : (emit edited (⟨"c", "c/d.txt", "new"⟩ :: regenerated) "out" false).2 =
      .ok ⟨["out/c/d.txt", "out/../out/b.txt"], ["out/a.txt"], []⟩ :=
    toOption_eq_some_iff.mp (by decide)
  exact ⟨_, rooted, done, rfl, foreseen, (plan_eq_emit_iff rooted done rfl).mpr (.inr foreseen)⟩

/-- A file that is listed twice is written at first and skipped then; the dry run writes it twice. -/
theorem plan_of_repeated :
    (emit .empty [⟨"a", "a.txt", "new"⟩, ⟨"a", "a.txt", "new"⟩] "out" false).2 =
        .ok ⟨["out/a.txt"], ["out/a.txt"], []⟩ ∧
      plan .empty [⟨"a", "a.txt", "new"⟩, ⟨"a", "a.txt", "new"⟩] "out" false =
        ⟨["out/a.txt", "out/a.txt"], [], []⟩ :=
  ⟨toOption_eq_some_iff.mp (by decide), by decide +kernel⟩

end Emission
end Scaffold

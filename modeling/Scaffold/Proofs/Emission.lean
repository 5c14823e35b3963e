/-
Emission does no harm to the files that are there (`Emission.emit_keeps`), as long as the paths of the
generated files go up only at their start. Whatever writes fail, each step only lets the tree grow
(`Step.keeps`), and so does a run (`Runs.keeps`).
-/
import Scaffold.Emission
import Scaffold.Proofs.FileTree

namespace Scaffold

/-- A path that goes up only at its start. -/
def Path.Descending (path : String) : Prop :=
  ∀ part ∈ (Path.parts path).dropWhile (fun part => part == "." || part == ".."), part ≠ ".."

instance (path : String) : Decidable (Path.Descending path) :=
  inferInstanceAs (Decidable (∀ part ∈ _, _))

theorem Path.Descending.cut {path : String} (h : Path.Descending path) :
    ∃ ups names, Path.parts path = ups ++ names ∧ (∀ part ∈ ups, part = "." ∨ part = "..") ∧
      ∀ part ∈ names, part ≠ ".." ∧ part ≠ "/" := by
  refine ⟨_, _, List.takeWhile_append_dropWhile.symm, ?_, fun part mem => ⟨h part mem, ?_⟩⟩
  · exact fun part mem => by simpa using List.mem_takeWhile_imp mem
  · rintro rfl
    exact Path.slash_notMem_of_mem_parts ((List.dropWhile_sublist _).subset mem) (by decide)

/-- The place where a path leads. -/
def Place.ofPath (path : String) : Place :=
  (Place.way path).1.walk (Path.parts path)

namespace FileTree

variable {t t' : FileTree} {root path text : String}

/-! ## Paths below a root -/

theorem HasDirectory.parts (h : t.HasDirectory root) :
    (Path.parts root).foldlM t.enter (Place.way root).1 = some (Place.ofPath root) ∧
      t.find? (Place.ofPath root) = some .directory := by
  obtain ⟨place, found, directory⟩ := h
  rw [way_eq] at found
  split at found
  · rw [List.foldlM_append] at found
    obtain ⟨here, found, entered⟩ := Option.bind_eq_some_iff.mp found
    rw [List.foldlM_cons] at entered
    obtain ⟨_, entered, -⟩ := Option.bind_eq_some_iff.mp entered
    obtain rfl : Place.ofPath root = here := walk_of_foldlM found
    exact ⟨found, (enter_eq_some_iff.mp entered).1⟩
  · obtain rfl : Place.ofPath root = place := walk_of_foldlM found
    exact ⟨found, directory⟩

/-- A way that leads to a directory and then, after going up, only down. -/
structure GoesDown (t : FileTree) (path : String) (front back : List String) (here : Place) : Prop where
  whole : (Place.way path).2 = front ++ back
  reached : front.foldlM t.enter (Place.way path).1 = some here
  directory : t.find? here = some .directory
  down : ∀ part ∈ back, part ≠ ".." ∧ part ≠ "/"

/-- A slash at the end of a path only adds a step that stays. -/
theorem goesDown_of_parts {joined : String} {front names : List String} {here : Place}
    (parts : Path.parts joined = front ++ names)
    (reached : front.foldlM t.enter (Place.way joined).1 = some here)
    (directory : t.find? here = some .directory) (down : ∀ part ∈ names, part ≠ ".." ∧ part ≠ "/") :
    t.GoesDown joined front (names ++ if Text.endsWith "/" joined then ["."] else []) here := by
  refine ⟨?_, reached, directory, fun part mem => ?_⟩
  · rw [way_eq, parts]
    split <;> simp
  · rcases List.mem_append.mp mem with name | last
    · exact down part name
    · split at last
      · rw [List.mem_singleton.mp last]
        decide
      · cases last

theorem goesDown_of_descending (rooted : t.Rooted) (descending : Path.Descending path) {joined : String}
    {base : List String} {here : Place} (parts : Path.parts joined = base ++ Path.parts path)
    (reached : base.foldlM t.enter (Place.way joined).1 = some here)
    (directory : t.find? here = some .directory) :
    ∃ front back there, t.GoesDown joined front back there := by
  obtain ⟨ups, names, cut, up, down⟩ := descending.cut
  obtain ⟨climbed, above⟩ := rooted.foldlM_up directory up
  have whole : Path.parts joined = (base ++ ups) ++ names := by rw [parts, cut, List.append_assoc]
  refine ⟨base ++ ups, _, _, goesDown_of_parts whole ?_ above down⟩
  rw [List.foldlM_append, reached]
  exact climbed

theorem HasDirectory.reached_join (base : t.HasDirectory root) (relative : Path.isAbsolute path = false) :
    (Path.parts root).foldlM t.enter (Place.way (Path.join root path)).1 = some (Place.ofPath root) := by
  show (Path.parts root).foldlM t.enter (if Path.isAbsolute (Path.join root path) then ["/"] else []) =
    some (Place.ofPath root)
  rw [Path.isAbsolute_join root relative]
  exact base.parts.1

theorem goesDown_join (rooted : t.Rooted) (base : t.HasDirectory root)
    (descending : Path.Descending path) :
    ∃ front back here, t.GoesDown (Path.join root path) front back here := by
  cases absolute : Path.isAbsolute path with
  | true =>
    have joined : Path.join root path = path := by simp [Path.join, absolute]
    have parts : Path.parts path = [] ++ Path.parts path := rfl
    rw [joined]
    refine goesDown_of_descending rooted descending parts rfl (find?_of_isGiven ?_)
    show Place.isGiven (if Path.isAbsolute path then ["/"] else []) = true
    split <;> rfl
  | false =>
    exact goesDown_of_descending rooted descending (Path.parts_join root absolute)
      (base.reached_join absolute) base.parts.2

/-- Such a way is there up to every directory on it. -/
theorem GoesDown.foldlM_above {front back above : List String} {here : Place} {name : String}
    (way : t.GoesDown path front back here) (rooted : t.Rooted)
    (whole : (Place.way path).2 = above ++ [name])
    (directory : t.find? ((Place.way path).1.walk above) = some .directory) :
    above.foldlM t.enter (Place.way path).1 = some ((Place.way path).1.walk above) := by
  rcases List.append_eq_append_iff.mp (whole.symm.trans way.whole) with
    ⟨rest, front_eq, -⟩ | ⟨rest, above_eq, back_eq⟩
  · have part := way.reached
    rw [front_eq, List.foldlM_append] at part
    obtain ⟨place, found, -⟩ := Option.bind_eq_some_iff.mp part
    rw [found, walk_of_foldlM found]
  · have goal : (Place.way path).1.walk above = here.walk rest := by
      rw [← walk_of_foldlM way.reached, above_eq]
      exact List.foldl_append ..
    have down (part : String) (mem : part ∈ rest) : part ≠ ".." ∧ part ≠ "/" :=
      way.down part (back_eq ▸ List.mem_append_left _ mem)
    rw [goal] at directory ⊢
    rw [above_eq, List.foldlM_append, way.reached]
    exact rooted.foldlM_down down directory

/-- Where a file is written that was not there, nothing was. -/
theorem Wrote.fresh {directory : Place} {name : String} (wrote : t.Wrote path text t' directory name)
    (rooted : t.Rooted) {front back : List String} {here : Place} (way : t.GoesDown path front back here)
    (missing : t.isThere path = false) : t.find? (directory.child name) = none := by
  refine wrote.free.resolve_right fun ⟨old, occupied⟩ => ?_
  obtain ⟨above, whole⟩ := List.getLast?_eq_some_iff.mp wrote.way
  have to_directory := wrote.above
  rw [whole, List.dropLast_concat] at to_directory
  -- The directory of the file was there, and so the path led to the file.
  have lies := rooted.above (Option.isSome_of_eq_some occupied) (isGiven_eq_false (t := t) (by simp [occupied]))
  rw [Place.dropLast_child] at lies
  have reached := way.foldlM_above rooted whole (to_directory ▸ lies)
  rw [to_directory] at reached
  have there : t.node? path = some (.file old) := by
    rw [node?, locate?_of_directory whole wrote.proper reached lies]
    exact occupied
  rw [isThere, there] at missing
  cases missing

end FileTree

namespace Emission

variable {root : String} {t t' : FileTree} {f : GeneratedFile} {fate : Fate}
  {outcomes : List (GeneratedFile × Fate)} {files : List GeneratedFile}

/-! ## Steps -/

/-- One file is emitted, and existing ones are not to be overwritten. A write can fail for any reason:
what was there stays then, but directories may be made. -/
inductive Step (root : String) (f : GeneratedFile) : FileTree → FileTree → Fate → Prop
  | skipped {t : FileTree} (there : t.isThere (Path.join root f.path) = true) :
    Step root f t t .skipped
  | written {t t' : FileTree} (missing : t.isThere (Path.join root f.path) = false)
    (ok : t.write (Path.join root f.path) f.content = (t', true)) : Step root f t t' .written
  | failed {t t' : FileTree} (missing : t.isThere (Path.join root f.path) = false)
    (grows : t.Grows t') (rooted : t'.Rooted) : Step root f t t' .failed

/-- A file that was written now is where nothing was before. -/
def IsNew (root : String) (f : GeneratedFile) (t t' : FileTree) : Prop :=
  ∃ place, t.find? place = none ∧ t'.locate? (Path.join root f.path) = some place ∧
    t'.find? place = some (.file (some f.content))

theorem IsNew.before {t₁ : FileTree} (new : IsNew root f t₁ t') (grows : t.Grows t₁) :
    IsNew root f t t' := by
  obtain ⟨place, free, located, content⟩ := new
  exact ⟨place, grows.find?_eq_none free, located, content⟩

theorem IsNew.after {t₁ : FileTree} (new : IsNew root f t t₁) (grows : t₁.Grows t') :
    IsNew root f t t' := by
  obtain ⟨place, free, located, content⟩ := new
  exact ⟨place, free, grows.locate? located, grows _ _ content⟩

theorem Step.keeps (step : Step root f t t' fate) (rooted : t.Rooted) (base : t.HasDirectory root)
    (descending : Path.Descending f.path) :
    t.Grows t' ∧ t'.Rooted ∧ (fate = .written → IsNew root f t t') ∧
      (fate ≠ .failed → t'.isThere (Path.join root f.path) = true) := by
  cases step with
  | skipped there => exact ⟨.refl t, rooted, by simp, fun _ => there⟩
  | failed missing grows rooted' => exact ⟨grows, rooted', by simp, by simp⟩
  | written missing ok =>
    obtain ⟨directory, name, wrote⟩ := FileTree.wrote_of_write rooted ok
    obtain ⟨front, back, here, way⟩ := FileTree.goesDown_join rooted base descending
    have free := wrote.fresh rooted way missing
    have there : t'.node? (Path.join root f.path) = some (.file (some f.content)) :=
      Option.bind_eq_some_iff.mpr ⟨_, wrote.located, wrote.written⟩
    refine ⟨fun place n found => wrote.others place n ?_ found, wrote.rooted,
      fun _ => ⟨_, free, wrote.located, wrote.written⟩, fun _ => Option.isSome_of_eq_some there⟩
    rintro rfl
    rw [free] at found
    cases found

theorem step_step (rooted : t.Rooted) (root : String) (f : GeneratedFile) :
    (step root false t f).2.1 = Path.join root f.path ∧
      Step root f t (step root false t f).1 (step root false t f).2.2 := by
  unfold step
  simp only [Bool.not_false, Bool.and_true]
  by_cases there : t.isThere (Path.join root f.path) = true
  · rw [if_pos there]
    exact ⟨rfl, .skipped there⟩
  · rw [if_neg there]
    have missing := Bool.of_not_eq_true there
    refine ⟨rfl, ?_⟩
    cases ok : t.write (Path.join root f.path) f.content with
    | mk t' done =>
      cases done with
      | true => exact .written missing ok
      | false =>
        obtain ⟨grows, rooted'⟩ := FileTree.grows_of_write_eq_false rooted ok
        exact .failed missing grows rooted'

/-! ## Runs -/

/-- Files are emitted one after the other, with what becomes of each. -/
inductive Runs (root : String) : FileTree → List (GeneratedFile × Fate) → FileTree → Prop
  | done (t : FileTree) : Runs root t [] t
  | step {t t₁ t' : FileTree} {f : GeneratedFile} {fate : Fate}
    {rest : List (GeneratedFile × Fate)} (first : Step root f t t₁ fate)
    (later : Runs root t₁ rest t') : Runs root t ((f, fate) :: rest) t'

/-- What an emission keeps and what it adds. -/
structure Keeps (root : String) (t : FileTree) (outcomes : List (GeneratedFile × Fate))
    (t' : FileTree) : Prop where
  /-- All that was there is there as it was. -/
  grows : t.Grows t'
  rooted : t'.Rooted
  /-- A written file has its content, in a place where nothing was. -/
  written : ∀ o ∈ outcomes, o.2 = .written → IsNew root o.1 t t'
  /-- No two written files are in one place. -/
  once : ((outcomes.filter (·.2 = .written)).map fun o =>
    t'.locate? (Path.join root o.1.path)).Nodup
  there : ∀ o ∈ outcomes, o.2 ≠ .failed → t'.isThere (Path.join root o.1.path) = true

theorem Runs.keeps (run : Runs root t outcomes t') (rooted : t.Rooted) (base : t.HasDirectory root)
    (descending : ∀ o ∈ outcomes, Path.Descending o.1.path) : Keeps root t outcomes t' := by
  induction run with
  | done t => exact ⟨.refl t, rooted, by simp, List.nodup_nil, by simp⟩
  | @step t t₁ t' f fate rest first later ih =>
    obtain ⟨grows, rooted₁, new, there⟩ :=
      first.keeps rooted base (descending (f, fate) List.mem_cons_self)
    have keeps := ih rooted₁ (grows.hasDirectory base) fun o mem =>
      descending o (List.mem_cons_of_mem _ mem)
    -- What the first file adds stays, so later files are elsewhere.
    refine ⟨grows.trans keeps.grows, keeps.rooted, fun o mem written => ?_, ?_, fun o mem kept => ?_⟩
    · rcases List.mem_cons.mp mem with rfl | later
      · exact (new written).after keeps.grows
      · exact (keeps.written o later written).before grows
    · rw [List.filter_cons]
      split
      · next written =>
        obtain ⟨place, -, located, content⟩ := new (by simpa using written)
        rw [List.map_cons, List.nodup_cons]
        refine ⟨fun mem => ?_, keeps.once⟩
        obtain ⟨o, o_mem, same⟩ := List.mem_map.mp mem
        obtain ⟨o_mem, o_written⟩ := List.mem_filter.mp o_mem
        obtain ⟨other, free, other_located, -⟩ := keeps.written o o_mem (by simpa using o_written)
        rw [other_located, keeps.grows.locate? located] at same
        rw [Option.some.inj same, content] at free
        cases free
      · exact keeps.once
    · rcases List.mem_cons.mp mem with rfl | later
      · exact keeps.grows.isThere (there kept)
      · exact keeps.there o later kept

theorem Step.rooted (step : Step root f t t' fate) (rooted : t.Rooted) : t'.Rooted := by
  cases step with
  | skipped there => exact rooted
  | failed missing grows rooted' => exact rooted'
  | written missing ok =>
    obtain ⟨_, _, wrote⟩ := FileTree.wrote_of_write rooted ok
    exact wrote.rooted

theorem runs_run (rooted : t.Rooted) (root : String) (files : List GeneratedFile) :
    ∃ outcomes, outcomes.map (·.1) = files ∧
      (run root false t files).2 = outcomes.map (fun o => (Path.join root o.1.path, o.2)) ∧
        Runs root t outcomes (run root false t files).1 := by
  induction files generalizing t with
  | nil => exact ⟨[], rfl, rfl, .done t⟩
  | cons f rest ih =>
    obtain ⟨path, first⟩ := step_step rooted root f
    obtain ⟨outcomes, listed, fates, later⟩ := ih (first.rooted rooted)
    refine ⟨(f, (step root false t f).2.2) :: outcomes, ?_, ?_, .step first later⟩
    · rw [List.map_cons, listed]
    · rw [List.map_cons, ← fates, ← path]
      rfl

theorem run_of_there (there : ∀ f ∈ files, t.isThere (Path.join root f.path) = true) :
    run root false t files = (t, files.map fun f => (Path.join root f.path, .skipped)) := by
  induction files with
  | nil => rfl
  | cons f rest ih =>
    have first : step root false t f = (t, Path.join root f.path, .skipped) := by
      simp [step, there f List.mem_cons_self]
    rw [run, first]
    simp only
    rw [ih fun f' mem => there f' (List.mem_cons_of_mem f mem)]
    rfl

/-! ## Whole emissions -/

/-- What an emission reports: every file once, with its path below the root. -/
def reportOf (root : String) (outcomes : List (GeneratedFile × Fate)) : Report :=
  .ofFates (outcomes.map fun o => (Path.join root o.1.path, o.2))

/-- The root is made, and then the files are emitted, whichever of the writes fail. -/
def Emits (root : String) (t : FileTree) (outcomes : List (GeneratedFile × Fate)) (t' : FileTree) :
    Prop :=
  ∃ t₁, t.makeDirectory root = (t₁, true) ∧ Runs root t₁ outcomes t'

theorem emits_emit (rooted : t.Rooted) (created : (t.makeDirectory root).2 = true)
    (files : List GeneratedFile) :
    ∃ outcomes t', outcomes.map (·.1) = files ∧ Emits root t outcomes t' ∧
      emit t files root false = (t', .ok (reportOf root outcomes)) := by
  have made : t.makeDirectory root = ((t.makeDirectory root).1, true) := Prod.ext rfl created
  obtain ⟨-, rooted₁, -⟩ := FileTree.hasDirectory_of_makeDirectory rooted made
  obtain ⟨outcomes, listed, fates, runs⟩ := runs_run rooted₁ root files
  refine ⟨outcomes, _, listed, ⟨_, made, runs⟩, ?_⟩
  rw [emit, made]
  simp only
  rw [fates, reportOf]

theorem Keeps.of_grows {t₁ : FileTree} (keeps : Keeps root t₁ outcomes t') (grows : t.Grows t₁) :
    Keeps root t outcomes t' :=
  ⟨grows.trans keeps.grows, keeps.rooted, fun o mem written => (keeps.written o mem written).before grows,
    keeps.once, keeps.there⟩

/-- A second emission writes nothing when nothing failed in the first. -/
theorem emit_of_there (base : t.HasDirectory root)
    (there : ∀ f ∈ files, t.isThere (Path.join root f.path) = true) :
    emit t files root false = (t, .ok ⟨[], files.map (Path.join root ·.path), []⟩) := by
  rw [emit, FileTree.makeDirectory_of_hasDirectory base]
  simp only
  rw [run_of_there there]
  simp [Report.ofFates, List.filter_map, Function.comp_def]

/-- Whatever writes fail, an emission that is not to overwrite files keeps all that was there, reports every
file once, writes to a place at most once and only where nothing was, and is done with when nothing failed;
the paths of the files go up only at their start. -/
theorem emit_keeps (rooted : t.Rooted) (created : (t.makeDirectory root).2 = true)
    (descending : ∀ f ∈ files, Path.Descending f.path) :
    (∃ outcomes t', outcomes.map (·.1) = files ∧ Emits root t outcomes t' ∧
      emit t files root false = (t', .ok (reportOf root outcomes))) ∧
    ∀ outcomes t', outcomes.map (·.1) = files → Emits root t outcomes t' →
      Keeps root t outcomes t' ∧
        (.failed ∉ outcomes.map (·.2) →
          emit t' files root false = (t', .ok ⟨[], files.map (Path.join root ·.path), []⟩)) := by
  refine ⟨emits_emit rooted created files, ?_⟩
  rintro outcomes t' rfl ⟨t₁, made, runs⟩
  obtain ⟨grows, rooted₁, base⟩ := FileTree.hasDirectory_of_makeDirectory rooted made
  have keeps : Keeps root t₁ outcomes t' :=
    runs.keeps rooted₁ base fun o mem => descending o.1 (List.mem_map_of_mem mem)
  refine ⟨keeps.of_grows grows, fun succeeded => emit_of_there (keeps.grows.hasDirectory base) ?_⟩
  intro f mem
  obtain ⟨o, o_mem, rfl⟩ := List.mem_map.mp mem
  exact keeps.there o o_mem fun failed => succeeded (failed ▸ List.mem_map_of_mem o_mem)

/-- A file that somebody has edited. -/
def edited : FileTree :=
  ⟨[(["out"], .directory), (["out", "a.txt"], .file (some "edited"))], []⟩

/-- Generated files, of which one is edited. -/
def regenerated : List GeneratedFile :=
  [⟨"a", "a.txt", "new"⟩, ⟨"b", "../out/b.txt", "new"⟩]

theorem edited_kept :
    edited.Rooted ∧ (edited.makeDirectory "out").2 = true ∧
      (∀ f ∈ regenerated, Path.Descending f.path) ∧
      ∃ outcomes t', outcomes.map (·.1) = regenerated ∧ Keeps "out" edited outcomes t' ∧
        emit edited regenerated "out" false = (t', .ok (reportOf "out" outcomes)) := by
  have rooted : edited.Rooted := by decide
  have created : (edited.makeDirectory "out").2 = true := by decide
  have descending : ∀ f ∈ regenerated, Path.Descending f.path := by decide
  obtain ⟨⟨outcomes, t', listed, emits, report⟩, keeps⟩ := emit_keeps rooted created descending
  exact ⟨rooted, created, descending, outcomes, t', listed, (keeps outcomes t' listed emits).1, report⟩

/-- A path that goes up from a directory which is only made when the file is written does not lead to the
file that it overwrites. -/
theorem edited_overwritten :
    edited.Rooted ∧ (edited.makeDirectory "out").2 = true ∧
      edited.read? "out/a.txt" = some "edited" ∧
        (emit edited [⟨"a", "new/../a.txt", "generated"⟩] "out" false).1.read? "out/a.txt" =
          some "generated" := by
  decide

end Emission
end Scaffold

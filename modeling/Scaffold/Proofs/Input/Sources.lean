/-
What a loader reads at a list of paths. Each path that can be read gives its source, once under the
spelling that is listed first (`sources_eq`), and every other path is a failure or is read under another
spelling (`mem_failures_of_unread`, `read_or_failed`).
-/
import Mathlib.Data.List.Induction
import Scaffold.Input.Loader
import Scaffold.Proofs.Keyed

namespace Scaffold

/-- What tells paths apart: where they start and their parts. -/
def Path.key (path : String) : Bool × List String :=
  (Path.isAbsolute path, Path.components path)

namespace Loader

variable {l l' : Loader} {t : FileTree} {p q : String} {s : Source} {f : Failure}

theorem samePath_eq (p q : String) : samePath p q = (Path.key p == Path.key q) := rfl

theorem samePath_iff : samePath p q = true ↔ Path.key p = Path.key q := by
  rw [samePath_eq, beq_iff_eq]

/-! ## One path -/

theorem find?_congr (same : Path.key p = Path.key q) : l.find? p = l.find? q := by
  simp only [find?, samePath_eq, same]

theorem source_of_known (known : l.find? p = some s) : l.source t p = .ok (s, l) := by
  rw [source, known]

theorem source_of_unknown (unknown : l.find? p = none) :
    l.source t p = match t.read? p with
      | none => .error ⟨p, .unreadableFile⟩
      | some text => (Source.ofText text p).map fun s => (s, ⟨(p, s) :: l.read⟩) := by
  unfold source
  split
  · next s known =>
    rw [unknown] at known
    cases known
  · rfl

/-- A source that was not known is that of the text in the tree, and is known from now on. -/
theorem exists_text (unknown : l.find? p = none) (read : l.source t p = .ok (s, l')) :
    ∃ text, t.read? p = some text ∧ Source.ofText text p = .ok s ∧ l' = ⟨(p, s) :: l.read⟩ := by
  rw [source_of_unknown unknown] at read
  split at read
  · cases read
  · next text found =>
    cases made : Source.ofText text p with
    | error f =>
      rw [made] at read
      cases read
    | ok s' =>
      rw [made] at read
      cases read
      exact ⟨text, found, made, rfl⟩

/-- The source at a path depends on what is known of this path only. -/
theorem map_source_congr (same : l'.find? p = l.find? p) :
    (l'.source t p).map (·.1) = (l.source t p).map (·.1) := by
  cases known : l.find? p with
  | some s => rw [source_of_known known, source_of_known (same.trans known)]; rfl
  | none =>
    rw [source_of_unknown known, source_of_unknown (same.trans known)]
    split
    · rfl
    · cases Source.ofText _ p <;> rfl

/-- Once a source is read, it is known under every spelling of its path. -/
theorem find?_of_source (read : l.source t p = .ok (s, l')) (q : String) :
    l'.find? q = if samePath p q then some s else l.find? q := by
  cases known : l.find? p with
  | some s' =>
    rw [source_of_known known] at read
    cases read
    split
    · next same => rw [← find?_congr (samePath_iff.mp same), known]
    · rfl
  | none =>
    obtain ⟨-, -, -, rfl⟩ := exists_text known read
    simp only [find?, List.find?_cons]
    split
    · next same => rw [if_pos same]; rfl
    · next other => rw [if_neg (by simp [other])]

/-! ## A list of paths -/

/-- The source at a path, if it can be read. -/
def readable (l : Loader) (t : FileTree) (path : String) : Option (String × Source) :=
  (l.source t path).toOption.map fun r => (path, r.1)

/-- The sources at some paths. -/
def sources (l : Loader) (t : FileTree) (paths : List String) : List (String × Source) :=
  (l.readAll t paths).2.1

/-- What a loader does with the next path. -/
def readStep (t : FileTree) (state : Loader × List (String × Source) × List Failure)
    (path : String) : Loader × List (String × Source) × List Failure :=
  if state.2.1.any (samePath ·.1 path) then state
  else
    match state.1.source t path with
    | .ok (s, l) => (l, state.2.1 ++ [(path, s)], state.2.2)
    | .error f => (state.1, state.2.1, state.2.2 ++ [f])

theorem readAll_eq (l : Loader) (t : FileTree) (paths : List String) :
    l.readAll t paths = paths.foldl (readStep t) (l, [], []) := rfl

theorem readAll_concat (l : Loader) (t : FileTree) (paths : List String) (p : String) :
    l.readAll t (paths ++ [p]) = readStep t (l.readAll t paths) p := by
  rw [readAll_eq, List.foldl_append, ← readAll_eq]
  rfl

/-- What a loader knows after it went through some paths. -/
structure Reads (l : Loader) (t : FileTree) (paths : List String)
    (state : Loader × List (String × Source) × List Failure) : Prop where
  sources : state.2.1 = firsts (Path.key ·.1) (paths.filterMap (l.readable t))
  known : ∀ s ∈ state.2.1, ∀ p, samePath s.1 p = true → state.1.find? p = some s.2
  unknown : ∀ p, state.2.1.any (samePath ·.1 p) = false → state.1.find? p = l.find? p

theorem readable_of_source (read : l.source t p = .ok (s, l')) : l.readable t p = some (p, s) := by
  rw [readable, read]
  rfl

theorem readable_of_error (failed : l.source t p = .error f) : l.readable t p = none := by
  rw [readable, failed]
  rfl

theorem source_of_readable {r : String × Source} (readable : l.readable t p = some r) :
    r.1 = p ∧ ∃ l', l.source t p = .ok (r.2, l') := by
  unfold Loader.readable at readable
  cases read : l.source t p with
  | error f =>
    rw [read] at readable
    cases readable
  | ok r =>
    rw [read] at readable
    cases readable
    exact ⟨rfl, r.2, rfl⟩

theorem readable_congr (same : l'.find? p = l.find? p) : l'.readable t p = l.readable t p := by
  have by_source (l : Loader) :
      l.readable t p = ((l.source t p).map (·.1)).toOption.map (p, ·) := by
    unfold readable
    cases l.source t p <;> rfl
  rw [by_source, by_source, map_source_congr same]

theorem readable_of_mem {paths : List String} {r : String × Source}
    (mem : r ∈ paths.filterMap (l.readable t)) : r.1 ∈ paths ∧ l.readable t r.1 = some r := by
  obtain ⟨p, p_mem, readable⟩ := List.mem_filterMap.mp mem
  obtain ⟨rfl, -⟩ := source_of_readable readable
  exact ⟨p_mem, readable⟩

theorem Reads.step {paths : List String} {state : Loader × List (String × Source) × List Failure}
    (h : Reads l t paths state) (p : String) : Reads l t (paths ++ [p]) (readStep t state p) := by
  obtain ⟨current, sources, failures⟩ := state
  obtain ⟨same, known, unknown⟩ := h
  simp only at same known unknown
  unfold readStep
  by_cases old : sources.any (samePath ·.1 p) = true
  · rw [if_pos old]
    refine ⟨?_, known, unknown⟩
    cases readable : l.readable t p with
    | none => simpa [readable] using same
    | some r =>
      obtain ⟨rfl, -⟩ := source_of_readable readable
      simp only [List.filterMap_append, List.filterMap_cons, readable, List.filterMap_nil,
        firsts_concat, ← same]
      exact (if_pos old).symm
  · have new := Bool.of_not_eq_true old
    rw [if_neg old]
    -- Of this path the loader knows as much as at the start.
    have start : current.readable t p = l.readable t p := readable_congr (unknown p new)
    cases read : current.source t p with
    | error f =>
      rw [readable_of_error read] at start
      exact ⟨by simpa [← start] using same, known, unknown⟩
    | ok r =>
      obtain ⟨s, after⟩ := r
      rw [readable_of_source read] at start
      refine ⟨?_, ?_, ?_⟩
      · simp only [List.filterMap_append, List.filterMap_cons, ← start, List.filterMap_nil,
          firsts_concat, ← same]
        exact (if_neg old).symm
      · intro r mem q spelled
        rw [find?_of_source read]
        rcases List.mem_append.mp mem with earlier | now
        · split
          · next here =>
            have both : samePath r.1 p = true :=
              samePath_iff.mpr ((samePath_iff.mp spelled).trans (samePath_iff.mp here).symm)
            exact absurd (List.any_eq_true.mpr ⟨r, earlier, both⟩) old
          · exact known r earlier q spelled
        · rw [List.mem_singleton.mp now] at spelled ⊢
          exact if_pos spelled
      · intro q fresh
        rw [List.any_append, Bool.or_eq_false_iff] at fresh
        rw [find?_of_source read, if_neg (by simpa using fresh.2)]
        exact unknown q fresh.1

theorem reads_readAll (l : Loader) (t : FileTree) (paths : List String) :
    Reads l t paths (l.readAll t paths) := by
  induction paths using List.reverseRecOn with
  | nil => exact ⟨rfl, by simp [readAll_eq], fun p _ => rfl⟩
  | append_singleton paths p ih =>
    rw [readAll_concat]
    exact ih.step p

/-- The sources are those of the readable paths, once each. -/
theorem sources_eq (l : Loader) (t : FileTree) (paths : List String) :
    l.sources t paths = firsts (Path.key ·.1) (paths.filterMap (l.readable t)) :=
  (reads_readAll l t paths).sources

theorem readable_of_mem_sources {paths : List String} {r : String × Source}
    (mem : r ∈ l.sources t paths) : r.1 ∈ paths ∧ l.readable t r.1 = some r := by
  rw [sources_eq] at mem
  exact readable_of_mem ((firsts_sublist _ _).subset mem)

theorem exists_source {paths : List String} {r : String × Source} (mem : p ∈ paths)
    (readable : l.readable t p = some r) : ∃ r ∈ l.sources t paths, samePath r.1 p = true := by
  obtain ⟨rfl, -⟩ := source_of_readable readable
  have listed := List.mem_filterMap.mpr ⟨r.1, mem, readable⟩
  obtain ⟨first, first_mem, same⟩ := exists_mem_firsts (Path.key ·.1) listed
  rw [← sources_eq] at first_mem
  exact ⟨first, first_mem, samePath_iff.mpr same⟩

/-! ## Failures -/

theorem failures_subset_readStep (t : FileTree)
    (state : Loader × List (String × Source) × List Failure) (p : String) :
    state.2.2 ⊆ (readStep t state p).2.2 := by
  unfold readStep
  split
  · exact List.Subset.refl _
  · split
    · exact List.Subset.refl _
    · exact List.subset_append_left _ _

theorem failures_subset_readAll (l : Loader) (t : FileTree) (before after : List String) :
    (l.readAll t before).2.2 ⊆ (l.readAll t (before ++ after)).2.2 := by
  induction after using List.reverseRecOn with
  | nil => rw [List.append_nil]; exact List.Subset.refl _
  | append_singleton after p ih =>
    rw [← List.append_assoc, readAll_concat]
    exact List.Subset.trans ih (failures_subset_readStep t _ p)

/-- A path that cannot be read when its turn comes is a failure. -/
theorem mem_failures_of_unread {before after : List String}
    (failed : (l.readAll t before).1.source t p = .error f) :
    f ∈ (l.readAll t (before ++ p :: after)).2.2 := by
  have whole : before ++ p :: after = (before ++ [p]) ++ after := by simp
  rw [whole]
  refine failures_subset_readAll l t (before ++ [p]) after ?_
  rw [readAll_concat, readStep]
  split
  · next old =>
    obtain ⟨r, mem, spelled⟩ := List.any_eq_true.mp old
    rw [source_of_known ((reads_readAll l t before).known r mem p spelled)] at failed
    cases failed
  · rw [failed]
    exact List.mem_append_right _ (List.mem_singleton_self f)

/-- Every path is read under some spelling, or is a failure. -/
theorem read_or_failed {paths : List String} (mem : p ∈ paths) :
    (∃ r ∈ l.sources t paths, samePath r.1 p = true) ∨
      ∃ f ∈ (l.readAll t paths).2.2, l.source t p = .error f := by
  cases start : l.source t p with
  | ok r => exact .inl (exists_source mem (readable_of_source start))
  | error f =>
    obtain ⟨before, after, rfl⟩ := List.append_of_mem mem
    -- By its turn the path may be known, if another spelling of it could be read.
    by_cases old : (l.readAll t before).2.1.any (samePath ·.1 p) = true
    · obtain ⟨r, r_mem, same⟩ := List.any_eq_true.mp old
      obtain ⟨r_before, readable⟩ := readable_of_mem_sources (l := l) (t := t) r_mem
      obtain ⟨first, first_mem, first_same⟩ :=
        exists_source (List.mem_append_left (p :: after) r_before) readable
      have spelled := (samePath_iff.mp first_same).trans (samePath_iff.mp same)
      exact .inl ⟨first, first_mem, samePath_iff.mpr spelled⟩
    · have unknown := (reads_readAll l t before).unknown p (Bool.of_not_eq_true old)
      have agree := map_source_congr (t := t) unknown
      rw [start] at agree
      refine .inr ⟨f, mem_failures_of_unread ?_, rfl⟩
      cases now : (l.readAll t before).1.source t p with
      | ok r => simp [now, Except.map] at agree
      | error f' => simpa [now, Except.map] using agree

end Loader
end Scaffold

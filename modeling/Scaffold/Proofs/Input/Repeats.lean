/-
What is listed or declared again. A path is read once, but one that cannot be read fails each time it is
listed. So nothing comes of a repetition exactly if a spelling of the path that can be read was listed before
(`Loader.load_once`). The failures of reading do not lead further loading apart, as long as they are the same
ones, however often (`Loaded.Alike`). Of the entities of one name the first that can be extracted is kept, and
a class inherits from the last declaration of the name of its base. A name is resolved alike by both exactly
when these two are one, or nobody inherits from it (`Loader.resolvesAlike_iff`).
-/
import Mathlib.Data.List.Induction
import Scaffold.Proofs.Input.Accounts

namespace Scaffold

namespace Loaded

/-- Two loads that went on alike, each after failures of its own. -/
structure Alike (failures failures' : List Failure) (a b : Loaded) : Prop where
  entities : a.entities = b.entities
  documents : a.documents = b.documents
  failures : ∃ since, a.failures = failures ++ since ∧ b.failures = failures' ++ since

namespace Alike

variable {failures failures' : List Failure} {a b : Loaded}

theorem fail (h : Alike failures failures' a b) (f : Failure) :
    Alike failures failures' (a.fail f) (b.fail f) := by
  obtain ⟨since, own, own'⟩ := h.failures
  refine ⟨h.entities, h.documents, since ++ [f], ?_, ?_⟩
  · rw [Loaded.fail, own, List.append_assoc]
  · rw [Loaded.fail, own', List.append_assoc]

theorem contains_failures (h : Alike failures failures' a b) (same : ∀ f, f ∈ failures ↔ f ∈ failures')
    (f : Failure) : a.failures.contains f = b.failures.contains f := by
  obtain ⟨since, own, own'⟩ := h.failures
  rw [own, own', Bool.eq_iff_iff, List.contains_iff_mem, List.contains_iff_mem, List.mem_append,
    List.mem_append, same]

theorem failOnce (h : Alike failures failures' a b) (same : ∀ f, f ∈ failures ↔ f ∈ failures')
    (f : Failure) : Alike failures failures' (a.failOnce f) (b.failOnce f) := by
  rw [Loaded.failOnce, Loaded.failOnce, h.contains_failures same]
  split
  · exact h
  · exact h.fail f

theorem add (h : Alike failures failures' a b) (same : ∀ f, f ∈ failures ↔ f ∈ failures')
    (path : String) (result : Except Failure Entity) :
    Alike failures failures' (a.add path result) (b.add path result) := by
  cases result with
  | error f => exact h.failOnce same f
  | ok e =>
    rw [Loaded.add, Loaded.add, h.entities]
    split
    · exact h.failOnce same _
    · exact ⟨rfl, h.documents, h.failures⟩

theorem addDocument (h : Alike failures failures' a b) (result : Except Failure Api.Document) :
    Alike failures failures' (a.addDocument result) (b.addDocument result) := by
  cases result with
  | error f => exact h.fail f
  | ok d => exact ⟨h.entities, congrArg (· ++ [d]) h.documents, h.failures⟩

theorem addAll (h : Alike failures failures' a b) (same : ∀ f, f ∈ failures ↔ f ∈ failures')
    (path : String) (results : List (Except Failure Entity)) :
    Alike failures failures' (a.addAll path results) (b.addAll path results) := by
  unfold Loaded.addAll
  induction results generalizing a b with
  | nil => exact h
  | cons result rest ih => exact ih (h.add same path result)

theorem load (h : Alike failures failures' a b) (same : ∀ f, f ∈ failures ↔ f ∈ failures')
    (context : Context) (r : String × Source) :
    Alike failures failures' (r.2.load context a r.1) (r.2.load context b r.1) := by
  obtain ⟨path, s⟩ := r
  cases s with
  | declarations ds | relational m ds => exact h.addAll same path _
  | document value => exact (h.addDocument _).addAll same path _

theorem foldl_load (h : Alike failures failures' a b) (same : ∀ f, f ∈ failures ↔ f ∈ failures')
    (context : Context) (sources : List (String × Source)) :
    Alike failures failures' (sources.foldl (fun loaded r => r.2.load context loaded r.1) a)
      (sources.foldl (fun loaded r => r.2.load context loaded r.1) b) := by
  induction sources generalizing a b with
  | nil => exact h
  | cons r rest ih => exact ih (h.load same context r)

end Alike

end Loaded

namespace Loader

variable {κ : Type} {name : String → κ} {l : Loader} {t : FileTree} {p : String} {paths : List String}

/-! ## Repetitions -/

/-- Every path that is listed again comes after a spelling of it that can be read. -/
def ReadFirst (name : String → κ) (l : Loader) (t : FileTree) (paths : List String) : Prop :=
  ∀ i, (h : i < paths.length) → (∃ q ∈ paths.take i, name q = name paths[i]) →
    ∃ q ∈ paths.take i, samePath q paths[i] = true ∧ (l.readable t q).isSome = true

instance [DecidableEq κ] (name : String → κ) (l : Loader) (t : FileTree) (paths : List String) :
    Decidable (ReadFirst name l t paths) :=
  inferInstanceAs (Decidable (∀ i, (h : i < paths.length) → _))

theorem readFirst_concat_iff : ReadFirst name l t (paths ++ [p]) ↔ ReadFirst name l t paths ∧
    ((∃ q ∈ paths, name q = name p) →
      ∃ q ∈ paths, samePath q p = true ∧ (l.readable t q).isSome = true) := by
  constructor
  · intro first
    refine ⟨fun i h => ?_, ?_⟩
    · have turn := first i (by simp; omega)
      rwa [List.getElem_append_left h, List.take_append_of_le_length h.le] at turn
    · simpa using first paths.length (by simp)
  · rintro ⟨first, last⟩ i h
    rw [List.length_append, List.length_singleton] at h
    rcases Nat.lt_succ_iff_lt_or_eq.mp h with old | rfl
    · rw [List.getElem_append_left old, List.take_append_of_le_length old.le]
      exact first i old
    · simpa using last

theorem readStep_of_read (read : ∃ q ∈ paths, samePath q p = true ∧ (l.readable t q).isSome = true) :
    readStep t (l.readAll t paths) p = l.readAll t paths := by
  obtain ⟨q, mem, spelled, readable⟩ := read
  obtain ⟨r, readable⟩ := Option.isSome_iff_exists.mp readable
  obtain ⟨first, first_mem, same⟩ := exists_source mem readable
  have both := (samePath_iff.mp same).trans (samePath_iff.mp spelled)
  exact if_pos (List.any_eq_true.mpr ⟨first, first_mem, samePath_iff.mpr both⟩)

theorem readStep_of_unread (unread : ¬∃ q ∈ paths, samePath q p = true ∧ (l.readable t q).isSome = true)
    {f : Failure} (failed : l.source t p = .error f) : readStep t (l.readAll t paths) p =
      ((l.readAll t paths).1, (l.readAll t paths).2.1, (l.readAll t paths).2.2 ++ [f]) := by
  have new : (l.readAll t paths).2.1.any (samePath ·.1 p) = false := by
    refine Bool.eq_false_iff.mpr fun old => unread ?_
    obtain ⟨r, mem, same⟩ := List.any_eq_true.mp old
    obtain ⟨listed, readable⟩ := readable_of_mem_sources (l := l) (t := t) mem
    exact ⟨r.1, listed, same, Option.isSome_of_eq_some readable⟩
  have agree := map_source_congr (t := t) ((reads_readAll l t paths).unknown p new)
  rw [failed] at agree
  rw [readStep, if_neg (Bool.not_eq_true _ ▸ new)]
  cases now : (l.readAll t paths).1.source t p with
  | ok r => simp [now, Except.map] at agree
  | error f' =>
    obtain rfl : f' = f := by simpa [now, Except.map] using agree
    rfl

/-- What a step does and adds does not depend on the failures before. -/
theorem exists_readStep (t : FileTree) (l : Loader) (sources : List (String × Source)) (p : String) :
    ∃ l' sources' more, ∀ failures,
      readStep t (l, sources, failures) p = (l', sources', failures ++ more) := by
  unfold readStep
  by_cases old : sources.any (samePath ·.1 p) = true
  · exact ⟨l, sources, [], fun failures => by simp [old]⟩
  · cases read : l.source t p with
    | ok r => exact ⟨r.2, sources ++ [(p, r.1)], [], fun failures => by simp [old, read]⟩
    | error f => exact ⟨l, sources, [f], fun failures => by simp [old, read]⟩

section
variable [BEq κ] [LawfulBEq κ]

theorem any_firsts (name : String → κ) (paths : List String) (p : String) :
    (firsts name paths).any (name · == name p) = true ↔ ∃ q ∈ paths, name q = name p := by
  have keys : name p ∈ (firsts name paths).map name ↔ name p ∈ paths.map name := mem_keys_firsts name
  simpa [List.mem_map] using keys

theorem firsts_concat_of_new (new : ¬∃ q ∈ paths, name q = name p) :
    firsts name (paths ++ [p]) = firsts name paths ++ [p] := by
  rw [firsts_concat, addNew, if_neg (mt (any_firsts name paths p).mp new)]

theorem firsts_concat_of_old (old : ∃ q ∈ paths, name q = name p) :
    firsts name (paths ++ [p]) = firsts name paths := by
  rw [firsts_concat, addNew, if_pos ((any_firsts name paths p).mpr old)]

/-- Repetitions of what can be read change nothing. -/
theorem readAll_firsts (first : ReadFirst name l t paths) :
    l.readAll t (firsts name paths) = l.readAll t paths := by
  induction paths using List.reverseRecOn with
  | nil => rfl
  | append_singleton paths p ih =>
    obtain ⟨before, last⟩ := readFirst_concat_iff.mp first
    rw [readAll_concat]
    by_cases old : ∃ q ∈ paths, name q = name p
    · rw [firsts_concat_of_old old, ih before, readStep_of_read (last old)]
    · rw [firsts_concat_of_new old, readAll_concat, ih before]

end

/-- What is read at some paths, and at the same paths without repetitions. -/
structure ReadOnce (l : Loader) (t : FileTree) (paths : List String) : Prop where
  loader : (l.readAll t (firsts id paths)).1 = (l.readAll t paths).1
  sources : (l.readAll t (firsts id paths)).2.1 = (l.readAll t paths).2.1
  fewer : (l.readAll t (firsts id paths)).2.2.Sublist (l.readAll t paths).2.2
  failures : (l.readAll t paths).2.2 ⊆ (l.readAll t (firsts id paths)).2.2
  first : (l.readAll t (firsts id paths)).2.2 = (l.readAll t paths).2.2 → ReadFirst id l t paths

theorem ReadOnce.concat_of_read (h : ReadOnce l t paths) (old : ∃ q ∈ paths, id q = id p)
    (read : ∃ q ∈ paths, samePath q p = true ∧ (l.readable t q).isSome = true) :
    ReadOnce l t (paths ++ [p]) := by
  have first := fun same => readFirst_concat_iff.mpr ⟨h.first same, fun _ => read⟩
  constructor <;> rw [firsts_concat_of_old old, readAll_concat, readStep_of_read read]
  exacts [h.loader, h.sources, h.fewer, h.failures, first]

theorem ReadOnce.concat_of_unread (h : ReadOnce l t paths) (old : ∃ q ∈ paths, id q = id p)
    (unread : ¬∃ q ∈ paths, samePath q p = true ∧ (l.readable t q).isSome = true) :
    ReadOnce l t (paths ++ [p]) := by
  have mem : p ∈ paths := by simpa using old
  -- The path failed already when it was listed first, and it fails once more.
  obtain ⟨f, noted, failed⟩ : ∃ f ∈ (l.readAll t paths).2.2, l.source t p = .error f := by
    refine (read_or_failed mem).resolve_left fun ⟨r, r_mem, same⟩ => unread ?_
    obtain ⟨listed, readable⟩ := readable_of_mem_sources r_mem
    exact ⟨r.1, listed, same, Option.isSome_of_eq_some readable⟩
  constructor <;>
    rw [firsts_concat_of_old old, readAll_concat, readStep_of_unread unread failed]
  · exact h.loader
  · exact h.sources
  · exact h.fewer.trans (List.sublist_append_left _ _)
  · exact List.append_subset.mpr ⟨h.failures, List.cons_subset.mpr ⟨h.failures noted, List.nil_subset _⟩⟩
  · intro same
    have fewer := h.fewer.length_le
    rw [same, List.length_append, List.length_singleton] at fewer
    omega

theorem ReadOnce.concat_of_new (h : ReadOnce l t paths) (new : ¬∃ q ∈ paths, id q = id p) :
    ReadOnce l t (paths ++ [p]) := by
  obtain ⟨l', sources, more, step⟩ :=
    exists_readStep t (l.readAll t paths).1 (l.readAll t paths).2.1 p
  have whole : l.readAll t (paths ++ [p]) = (l', sources, (l.readAll t paths).2.2 ++ more) := by
    rw [readAll_concat]
    exact step _
  have once : l.readAll t (firsts id (paths ++ [p])) =
      (l', sources, (l.readAll t (firsts id paths)).2.2 ++ more) := by
    rw [firsts_concat_of_new new, readAll_concat, ← step, ← h.loader, ← h.sources]
  constructor <;> rw [whole, once]
  · exact h.fewer.append_right more
  · exact List.append_subset.mpr
      ⟨List.subset_append_of_subset_left more h.failures, List.subset_append_right _ more⟩
  · intro same
    exact readFirst_concat_iff.mpr
      ⟨h.first (List.append_cancel_right same), fun old => absurd old new⟩

theorem readOnce (l : Loader) (t : FileTree) (paths : List String) : ReadOnce l t paths := by
  induction paths using List.reverseRecOn with
  | nil => exact ⟨rfl, rfl, .slnil, List.Subset.refl _, fun _ i h => absurd h (Nat.not_lt_zero i)⟩
  | append_singleton paths p ih =>
    by_cases old : ∃ q ∈ paths, id q = id p
    · by_cases read : ∃ q ∈ paths, samePath q p = true ∧ (l.readable t q).isSome = true
      · exact ih.concat_of_read old read
      · exact ih.concat_of_unread old read
    · exact ih.concat_of_new old

/-! ## Loads -/

theorem load_eq (l : Loader) (t : FileTree) (paths : List String) : l.load t paths =
    ((l.readAll t paths).2.1.foldl (fun loaded r => r.2.load
        (.ofDeclarations ((l.readAll t paths).2.1.flatMap fun r => r.2.shared)) loaded r.1)
      ⟨[], [], (l.readAll t paths).2.2⟩, (l.readAll t paths).1) := rfl

/-- A load of some paths against one of the same paths, each listed once. They give the same entities and
documents, and the same failures exactly if every path that is listed again could be read before, under some
spelling. If paths are told apart by their parts, and not by how they are spelled, that is enough for the two
loads to agree in all. -/
theorem load_once (l : Loader) (t : FileTree) (paths : List String) :
    ((l.load t (firsts id paths)).1.entities = (l.load t paths).1.entities ∧
      (l.load t (firsts id paths)).1.documents = (l.load t paths).1.documents ∧
      ((l.load t (firsts id paths)).1.failures = (l.load t paths).1.failures ↔
        ReadFirst id l t paths)) ∧
    (ReadFirst Path.key l t paths → l.load t (firsts Path.key paths) = l.load t paths) := by
  have once := readOnce l t paths
  have same (f : Failure) : f ∈ (l.readAll t (firsts id paths)).2.2 ↔ f ∈ (l.readAll t paths).2.2 :=
    ⟨fun mem => once.fewer.subset mem, fun mem => once.failures mem⟩
  have alike : Loaded.Alike (l.readAll t (firsts id paths)).2.2 (l.readAll t paths).2.2
      (l.load t (firsts id paths)).1 (l.load t paths).1 := by
    rw [load_eq, load_eq, once.sources]
    have start : Loaded.Alike (l.readAll t (firsts id paths)).2.2 (l.readAll t paths).2.2
        ⟨[], [], (l.readAll t (firsts id paths)).2.2⟩ ⟨[], [], (l.readAll t paths).2.2⟩ :=
      ⟨rfl, rfl, [], (List.append_nil _).symm, (List.append_nil _).symm⟩
    exact start.foldl_load same _ _
  refine ⟨⟨alike.entities, alike.documents, ?_⟩, fun first => ?_⟩
  · obtain ⟨since, own, own'⟩ := alike.failures
    rw [own, own', List.append_left_inj]
    exact ⟨once.first, fun first => by rw [readAll_firsts first]⟩
  · rw [load_eq, load_eq, readAll_firsts first]

theorem load_once_twice :
    ReadFirst Path.key .empty twice ["d/a.json", "c.json", "d/./a.json", "d/a.json"] ∧
      Loader.empty.load twice ["d/a.json", "c.json"] =
        Loader.empty.load twice ["d/a.json", "c.json", "d/./a.json", "d/a.json"] := by
  have first : ReadFirst Path.key .empty twice ["d/a.json", "c.json", "d/./a.json", "d/a.json"] := by
    decide
  have firsts : firsts Path.key ["d/a.json", "c.json", "d/./a.json", "d/a.json"] =
      ["d/a.json", "c.json"] := by
    decide
  exact ⟨first, firsts ▸ (load_once .empty twice _).2 first⟩

/-- A path that cannot be read is a failure as often as it is listed. -/
theorem load_of_missing :
    (Loader.empty.load .empty ["a.json", "a.json"]).1.failures =
        [⟨"a.json", .unreadableFile⟩, ⟨"a.json", .unreadableFile⟩] ∧
      (Loader.empty.load .empty (firsts id ["a.json", "a.json"])).1.failures =
        [⟨"a.json", .unreadableFile⟩] := by
  decide

end Loader

/-! ## Classes of one name -/

namespace Context

variable {ds : List Declaration} {d b : Declaration} {context : Context}

/-- A class takes over the properties of another one, which is among its bases. -/
def Inherits (context : Context) (d b : Declaration) : Prop :=
  ∃ chain, context.chain d = .ok chain ∧ b ∈ chain.dropLast

/-- A later declaration takes the place of an earlier one of its name. -/
theorem get?_ofDeclarations (ds : List Declaration) (name : String) :
    (ofDeclarations ds).declarations.get? name = ds.reverse.find? (·.name == name) := by
  induction ds using List.reverseRecOn with
  | nil => rfl
  | append_singleton ds d ih =>
    have step : ofDeclarations (ds ++ [d]) = (ofDeclarations ds).register d := by
      rw [ofDeclarations, List.foldl_append]
      rfl
    rw [step, register, KeyMap.get?_insert, ih, List.reverse_append, List.reverse_singleton,
      List.singleton_append, List.find?_cons]
    by_cases same : d.name = name
    · simp [same]
    · rw [if_neg same, beq_eq_false_iff_ne.mpr same]

/-- What a context has under a name is of that name. -/
def Named (context : Context) : Prop :=
  ∀ name d, context.declarations.get? name = some d → d.name = name

theorem named_ofDeclarations (ds : List Declaration) : (ofDeclarations ds).Named := by
  intro name d known
  rw [get?_ofDeclarations] at known
  simpa using List.find?_some known

/-- All bases are what the context has under their names. -/
theorem get?_of_mem_basesAbove (named : context.Named) {fuel : Nat} {seen : List String}
    {start current : Declaration} {above : List Declaration}
    (run : context.basesAbove start fuel seen current = .ok above) (mem : b ∈ above) :
    context.declarations.get? b.name = some b := by
  induction fuel generalizing seen current above with
  | zero =>
    cases run
    cases mem
  | succ fuel ih =>
    rw [basesAbove] at run
    split at run
    · cases run
      cases mem
    · next base _ =>
      split at run
      · cases run
        cases mem
      · next next known =>
        split at run
        · cases run
        · obtain ⟨rest, above_run, run⟩ := eq_ok_of_bind run
          cases run
          rcases List.mem_cons.mp mem with rfl | later
          · rwa [named base b known]
          · exact ih above_run later

/-- A class inherits from the last declarations of the names of its bases. -/
theorem Inherits.last (inherits : (ofDeclarations ds).Inherits d b) :
    ds.reverse.find? (·.name == b.name) = some b := by
  obtain ⟨chain, made, mem⟩ := inherits
  obtain ⟨above, run, made⟩ := eq_ok_of_bind made
  cases made
  rw [List.reverse_cons, List.dropLast_concat, List.mem_reverse] at mem
  rw [← get?_ofDeclarations]
  exact get?_of_mem_basesAbove (named_ofDeclarations ds) run mem

end Context

namespace Loader

variable {l : Loader} {t : FileTree} {paths : List String}

/-- The declarations that the classes of a load can inherit from, in order. -/
def declared (l : Loader) (t : FileTree) (paths : List String) : List Declaration :=
  (l.sources t paths).flatMap fun r => r.2.shared

/-- The input that the loaded entity of a name comes of: the first one that gives an entity of it. -/
def kept? (l : Loader) (t : FileTree) (paths : List String) (name : String) :
    Option (String × EntityInput) :=
  (l.inputs t paths).find? fun i => (i.2.entity? i.1).any (·.name == name)

theorem find?_entities_load (l : Loader) (t : FileTree) (paths : List String) (name : String) :
    (l.load t paths).1.entities.find? (·.name == name) =
      (l.kept? t paths name).bind fun i => i.2.entity? i.1 := by
  rw [(takes_load l t paths).find?_entities, Loaded.found, List.find?_filterMap]
  rfl

/-- If a class is loaded, whoever inherits from its name inherits from that class. -/
def ResolvesAlike (l : Loader) (t : FileTree) (paths : List String) (name : String) : Prop :=
  ∀ path k, l.kept? t paths name = some (path, .declaration (l.context t paths) k) →
    ∀ d ∈ l.declared t paths, ∀ b, (l.context t paths).Inherits d b → b.name = name → b = k

/-- The loaded entity of a name comes of its first input, and the name is resolved alike if and only if
this is its last declaration, or no class inherits from the name. -/
theorem resolvesAlike_iff (l : Loader) (t : FileTree) (paths : List String) (name : String) :
    (l.load t paths).1.entities.find? (·.name == name) =
        (l.kept? t paths name).bind (fun i => i.2.entity? i.1) ∧
      (l.ResolvesAlike t paths name ↔
        ∀ path k, l.kept? t paths name = some (path, .declaration (l.context t paths) k) →
          (l.declared t paths).reverse.find? (·.name == name) = some k ∨
            ∀ d ∈ l.declared t paths, ∀ b, (l.context t paths).Inherits d b → b.name ≠ name) := by
  refine ⟨find?_entities_load l t paths name, ?_, ?_⟩
  · intro alike path k kept
    by_cases someone : ∃ d ∈ l.declared t paths, ∃ b, (l.context t paths).Inherits d b ∧ b.name = name
    · obtain ⟨d, d_mem, b, inherits, named⟩ := someone
      have last := inherits.last
      rw [named, alike path k kept d d_mem b inherits named] at last
      exact .inl last
    · refine .inr fun d d_mem b inherits named => someone ⟨d, d_mem, b, inherits, named⟩
  · intro same path k kept d d_mem b inherits named
    rcases same path k kept with last | nobody
    · have own := inherits.last
      rw [named] at own
      exact Option.some.inj (own.symm.trans last)
    · exact absurd named (nobody d d_mem b inherits)

/-- What a loader has read of two files, both of which declare a class `Base`. -/
def rivals : Loader :=
  let base (file : String) : Declaration := { Declaration.plain "Base" "" with filePath := some file }
  let pet : Declaration :=
    { Declaration.plain "Pet" "" with base := some "Base", filePath := some "a.json" }
  ⟨[("a.json", .declarations [base "a.json", pet]), ("b.json", .declarations [base "b.json"])]⟩

/-- The entity of the first is kept, and the class of the second is inherited from. -/
theorem rivals_resolved_apart :
    ¬rivals.ResolvesAlike .empty ["a.json", "b.json"] "Base" := by
  let base (file : String) : Declaration := { Declaration.plain "Base" "" with filePath := some file }
  let pet : Declaration :=
    { Declaration.plain "Pet" "" with base := some "Base", filePath := some "a.json" }
  intro alike
  have same : base "b.json" = base "a.json" :=
    alike "a.json" (base "a.json") rfl pet (List.mem_of_getElem? (i := 1) rfl) (base "b.json")
      ⟨[base "b.json", pet], rfl, List.mem_singleton_self _⟩ rfl
  have files := congrArg Declaration.filePath same
  revert files
  decide

end Loader
end Scaffold

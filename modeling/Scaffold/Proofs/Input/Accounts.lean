/-
What a load makes of its inputs: nothing is lost (`Loader.load_accounts`). While sources are added one by
one, the entities stay the first ones of their names among the inputs so far, and all else that happened
to an input is among the failures (`Loaded.Takes`).
-/
import Scaffold.Proofs.Input.Files

namespace Scaffold

/-- The entity of an input in the file at a path, if it can be extracted. -/
def EntityInput.entity? (input : EntityInput) (path : String) : Option Entity :=
  input.extract.toOption.map (·.within path)

/-- The schema has properties, or parts and no reference, or the type of an object and nothing on further
members; and it lists no values. -/
def Api.Schema.DescribesObject (schema : Json) : Prop :=
  (schema.get? "properties" ≠ none ∨ schema.get? "allOf" ≠ none ∧ schema.get? "$ref" = none ∨
    typeName? schema = some "object" ∧ schema.get? "additionalProperties" = none) ∧
  schema.itemsAt? "enum" = none

theorem Api.Schema.describesObject_iff {schema : Json} :
    DescribesObject schema ↔ (isObject schema && !isEnum schema) = true := by
  simp [DescribesObject, isObject, isEnum, has, Option.isSome_iff_ne_none, or_assoc]

theorem Api.mem_objectSchemaNames_iff {document : Json} {name : String} :
    name ∈ objectSchemaNames document ↔
      ∃ schema, (name, schema) ∈ namedSchemas document ∧ Schema.DescribesObject schema := by
  simp [objectSchemaNames, Schema.describesObject_iff]

/-- What is extracted from a source: its classes that are no enums, or its object schemas. -/
def Source.Lists (context : Context) (path : String) (input : EntityInput) : Source → Prop
  | .declarations ds => ∃ d ∈ ds, d.isEnum = false ∧ .declaration context d = input
  | .relational model ds =>
    ∃ d ∈ ds, d.isEnum = false ∧ .relational (.ofDeclarations ds) model d = input
  | .document value => ∃ name schema, (name, schema) ∈ Api.namedSchemas value ∧
    Api.Schema.DescribesObject schema ∧ .schema value name path = input

theorem Source.mem_inputs_iff {s : Source} {context : Context} {path : String} {input : EntityInput} :
    input ∈ s.inputs context path ↔ s.Lists context path input := by
  cases s with
  | declarations ds | relational model ds => simp [inputs, Lists, and_assoc]
  | document value =>
    simp only [inputs, Lists, List.mem_map, Api.mem_objectSchemaNames_iff]
    constructor
    · rintro ⟨name, ⟨schema, mem, object⟩, same⟩
      exact ⟨name, schema, mem, object, same⟩
    · rintro ⟨name, schema, mem, object, same⟩
      exact ⟨name, ⟨schema, mem, object⟩, same⟩

/-- The document of a source, if it is one that can be loaded. -/
def Source.document? (s : Source) (path : String) : Option Api.Document :=
  match s with
  | .document value => (Api.load value path).toOption
  | _ => none

namespace Loaded

/-- The names of the entities are different. -/
def Unique (l : Loaded) : Prop :=
  (l.entities.map (·.name)).Nodup

variable {l : Loaded} {sources : List (String × Source)} {taken : List (String × EntityInput)}
  {path : String} {f : Failure}

/-! ## Steps -/

theorem mem_failures_failOnce (l : Loaded) (f : Failure) : f ∈ (l.failOnce f).failures := by
  unfold failOnce
  split
  · next known => exact List.contains_iff_mem.mp known
  · exact List.mem_append_right _ (List.mem_singleton_self f)

theorem failures_subset_failOnce (l : Loaded) (f : Failure) :
    l.failures ⊆ (l.failOnce f).failures := by
  unfold failOnce
  split
  · exact List.Subset.refl _
  · exact List.subset_append_left _ _

theorem entities_failOnce (l : Loaded) (f : Failure) : (l.failOnce f).entities = l.entities := by
  unfold failOnce
  split <;> rfl

theorem documents_failOnce (l : Loaded) (f : Failure) : (l.failOnce f).documents = l.documents := by
  unfold failOnce
  split <;> rfl

/-- The first entity of a name is taken over. -/
theorem add_of_new {e : Entity} (new : l.entities.find? (·.name == e.name) = none) :
    l.add path (.ok e) = { l with entities := l.entities ++ [e.within path] } := by
  rw [add, new]
  rfl

/-- Another one is a failure that names the file of the first. -/
theorem add_of_taken {e first : Entity} (old : l.entities.find? (·.name == e.name) = some first) :
    l.add path (.ok e) = l.failOnce ⟨path, .duplicateEntity e.name (first.filePath.getD "")⟩ := by
  rw [add, old]

/-- The entities of some inputs, each in its file. -/
def found (taken : List (String × EntityInput)) : List Entity :=
  taken.filterMap fun i => i.2.entity? i.1

/-- What is loaded after some sources and the inputs in them. -/
structure Takes (failures : List Failure) (sources : List (String × Source))
    (taken : List (String × EntityInput)) (l : Loaded) : Prop where
  entities : l.entities = firsts (·.name) (found taken)
  documents : l.documents = sources.filterMap fun r => r.2.document? r.1
  before : failures ⊆ l.failures
  failedDocument : ∀ r ∈ sources, ∀ value f, r.2 = .document value →
    Api.load value r.1 = .error f → f ∈ l.failures
  failed : ∀ i ∈ taken, ∀ f, i.2.extract = .error f → f ∈ l.failures
  repeated : ∀ earlier i later, taken = earlier ++ i :: later → ∀ e first, i.2.extract = .ok e →
    (found earlier).find? (·.name == e.name) = some first →
      ⟨i.1, .duplicateEntity e.name (first.filePath.getD "")⟩ ∈ l.failures

namespace Takes

variable {failures : List Failure}

theorem start (failures : List Failure) : Takes failures [] [] ⟨[], [], failures⟩ where
  entities := rfl
  documents := rfl
  before := List.Subset.refl _
  failedDocument := by simp
  failed := by simp
  repeated := by simp

theorem find?_entities (h : Takes failures sources taken l) (name : String) :
    l.entities.find? (·.name == name) = (found taken).find? (·.name == name) := by
  rw [h.entities]
  exact find?_firsts (·.name) name (found taken)

/-- One more input: it is added to the entities if it is new, or else noted. -/
theorem concat (h : Takes failures sources taken l) {l' : Loaded} {path : String}
    {input : EntityInput}
    (entities : l'.entities = (input.entity? path).toList.foldl (addNew (·.name)) l.entities)
    (documents : l'.documents = l.documents) (grown : l.failures ⊆ l'.failures)
    (failed : ∀ f, input.extract = .error f → f ∈ l'.failures)
    (repeated : ∀ e first, input.extract = .ok e →
      l.entities.find? (·.name == e.name) = some first →
        ⟨path, .duplicateEntity e.name (first.filePath.getD "")⟩ ∈ l'.failures) :
    Takes failures sources (taken ++ [(path, input)]) l' where
  entities := by
    rw [entities, h.entities, found, found, List.filterMap_append, ← foldl_addNew_nil,
      ← foldl_addNew_nil, List.foldl_append]
    cases made : input.entity? path <;> simp [made]
  documents := documents.trans h.documents
  before := List.Subset.trans h.before grown
  failedDocument r mem value f same load := grown (h.failedDocument r mem value f same load)
  failed i mem f error := by
    rcases List.mem_append.mp mem with old | new
    · exact grown (h.failed i old f error)
    · rw [List.mem_singleton.mp new] at error
      exact failed f error
  repeated earlier i later whole e first ok taken_first := by
    -- Either the input is the new one, and what came earlier is all that was known, or it is an old one.
    rcases List.eq_nil_or_concat later with rfl | ⟨later, last, rfl⟩
    · obtain ⟨rfl, same⟩ := List.append_inj' whole rfl
      cases same
      rw [← h.find?_entities] at taken_first
      exact repeated e first ok taken_first
    · rw [List.concat_eq_append, ← List.cons_append, ← List.append_assoc] at whole
      obtain ⟨whole, -⟩ := List.append_inj' whole rfl
      exact grown (h.repeated earlier i later whole e first ok taken_first)

theorem add (h : Takes failures sources taken l) (path : String) (input : EntityInput) :
    Takes failures sources (taken ++ [(path, input)]) (l.add path input.extract) := by
  cases extracted : input.extract with
  | error f =>
    have none : input.entity? path = none := by rw [EntityInput.entity?, extracted]; rfl
    refine h.concat ?_ (documents_failOnce l f) (failures_subset_failOnce l f) ?_ ?_
    · rw [none]
      exact entities_failOnce l f
    · rintro f' same
      rw [extracted] at same
      cases same
      exact mem_failures_failOnce l f
    · intro e first same
      rw [extracted] at same
      cases same
  | ok e =>
    have made : input.entity? path = some (e.within path) := by
      rw [EntityInput.entity?, extracted]
      rfl
    have no_error (l' : Loaded) (f : Failure) (same : input.extract = .error f) : f ∈ l'.failures := by
      rw [extracted] at same
      cases same
    cases old : l.entities.find? (·.name == e.name) with
    | none =>
      rw [add_of_new old]
      have new : l.entities.any (·.name == e.name) = false := by
        rw [List.any_eq_false]
        exact List.find?_eq_none.mp old
      refine h.concat ?_ rfl (List.Subset.refl _) (no_error _) ?_
      · rw [made]
        exact (if_neg (by simpa using new)).symm
      · intro e' first same taken_first
        rw [extracted] at same
        cases same
        rw [old] at taken_first
        cases taken_first
    | some first =>
      rw [add_of_taken old]
      have taken_name : l.entities.any (·.name == e.name) = true := by
        rw [← List.isSome_find?, old]
        rfl
      refine h.concat ?_ (documents_failOnce l _) (failures_subset_failOnce l _) (no_error _) ?_
      · rw [made, entities_failOnce]
        exact (if_pos taken_name).symm
      · intro e' first' same taken_first
        rw [extracted] at same
        cases same
        rw [old] at taken_first
        cases taken_first
        exact mem_failures_failOnce l _

theorem addAll (h : Takes failures sources taken l) (path : String) (inputs : List EntityInput) :
    Takes failures sources (taken ++ inputs.map (path, ·))
      (l.addAll path (inputs.map (·.extract))) := by
  unfold Loaded.addAll
  induction inputs generalizing taken l with
  | nil => simpa using h
  | cons input rest ih =>
    have rest := ih (h.add path input)
    rwa [List.append_assoc, List.singleton_append] at rest

/-- One more source, before its inputs are looked at. -/
theorem concatSource (h : Takes failures sources taken l) {l' : Loaded} {r : String × Source}
    (entities : l'.entities = l.entities)
    (documents : l'.documents = l.documents ++ (r.2.document? r.1).toList)
    (grown : l.failures ⊆ l'.failures)
    (failed : ∀ value f, r.2 = .document value → Api.load value r.1 = .error f → f ∈ l'.failures) :
    Takes failures (sources ++ [r]) taken l' where
  entities := entities.trans h.entities
  documents := by
    rw [documents, h.documents, List.filterMap_append]
    cases made : r.2.document? r.1 <;> simp [made]
  before := List.Subset.trans h.before grown
  failedDocument r' mem value f same error := by
    rcases List.mem_append.mp mem with old | new
    · exact grown (h.failedDocument r' old value f same error)
    · rw [List.mem_singleton.mp new] at same error
      exact failed value f same error
  failed i mem f error := grown (h.failed i mem f error)
  repeated earlier i later whole e first ok taken :=
    grown (h.repeated earlier i later whole e first ok taken)

theorem source (h : Takes failures sources taken l) (context : Context) (r : String × Source) :
    Takes failures (sources ++ [r]) (taken ++ (r.2.inputs context r.1).map (r.1, ·))
      (r.2.load context l r.1) := by
  obtain ⟨path, s⟩ := r
  refine Takes.addAll ?_ path (s.inputs context path)
  cases s with
  | declarations ds | relational m ds =>
    exact h.concatSource rfl (List.append_nil _).symm (List.Subset.refl _) (by simp)
  | document value =>
    simp only
    cases loaded : Api.load value path with
    | ok d =>
      refine h.concatSource rfl ?_ (List.Subset.refl _) ?_
      · simp [Source.document?, loaded, addDocument, Except.toOption]
      · rintro value' f ⟨⟩ error
        rw [loaded] at error
        cases error
    | error f =>
      refine h.concatSource rfl ?_ (List.subset_append_left _ _) ?_
      · simp [Source.document?, loaded, addDocument, Except.toOption, fail]
      · rintro value' f' ⟨⟩ error
        rw [loaded] at error
        cases error
        exact List.mem_append_right _ (List.mem_singleton_self f)

end Takes

end Loaded

namespace Loader

variable {l : Loader} {t : FileTree} {paths : List String}

/-- The context that the classes of all files share. -/
def context (l : Loader) (t : FileTree) (paths : List String) : Context :=
  .ofDeclarations ((l.sources t paths).flatMap fun r => r.2.shared)

/-- The classes and object schemas of all sources with the paths of their files, in order. -/
def inputs (l : Loader) (t : FileTree) (paths : List String) : List (String × EntityInput) :=
  (l.sources t paths).flatMap fun r => (r.2.inputs (l.context t paths) r.1).map (r.1, ·)

theorem mem_inputs_iff {path : String} {input : EntityInput} :
    (path, input) ∈ l.inputs t paths ↔
      ∃ s, (path, s) ∈ l.sources t paths ∧ s.Lists (l.context t paths) path input := by
  simp [inputs, ← Source.mem_inputs_iff]

theorem takes_load (l : Loader) (t : FileTree) (paths : List String) :
    Loaded.Takes (l.readAll t paths).2.2 (l.sources t paths) (l.inputs t paths)
      (l.load t paths).1 := by
  have run (sources rest : List (String × Source)) (taken : List (String × EntityInput))
      (loaded : Loaded) (h : Loaded.Takes (l.readAll t paths).2.2 sources taken loaded) :
      Loaded.Takes (l.readAll t paths).2.2 (sources ++ rest)
        (taken ++ rest.flatMap fun r => (r.2.inputs (l.context t paths) r.1).map (r.1, ·))
        (rest.foldl (fun loaded r => r.2.load (l.context t paths) loaded r.1) loaded) := by
    -- What is done comes first in both lists, so that each step appends to them.
    induction rest generalizing sources taken loaded with
    | nil => simpa using h
    | cons r rest ih =>
      have next := ih _ _ _ (h.source (l.context t paths) r)
      rwa [List.append_assoc, List.append_assoc, List.singleton_append] at next
  exact run [] (l.sources t paths) [] _ (.start _)

theorem mem_entities_of_find? {name : String} {e : Entity}
    (found : (Loaded.found (l.inputs t paths)).find? (·.name == name) = some e) :
    e ∈ (l.load t paths).1.entities := by
  rw [← (takes_load l t paths).find?_entities] at found
  exact List.mem_of_find?_eq_some found

theorem unique_load (l : Loader) (t : FileTree) (paths : List String) :
    (l.load t paths).1.Unique := by
  rw [Loaded.Unique, (takes_load l t paths).entities]
  exact nodup_firsts _ _

/-- What a load says of its paths, of its documents, and of the classes and object schemas in them. -/
structure Accounts (l : Loader) (t : FileTree) (paths : List String) : Prop where
  unique : (l.load t paths).1.Unique
  /-- A path is read, under some spelling, or its failure is noted. -/
  read : ∀ p ∈ paths, (∃ r ∈ l.sources t paths, samePath r.1 p = true) ∨
    ∃ f ∈ (l.load t paths).1.failures, l.source t p = .error f
  /-- A path that cannot be read when its turn comes is noted, even if another spelling can be. -/
  unread : ∀ before p after f, paths = before ++ p :: after →
    (l.readAll t before).1.source t p = .error f → f ∈ (l.load t paths).1.failures
  documents : (l.load t paths).1.documents =
    (l.sources t paths).filterMap fun r => r.2.document? r.1
  document : ∀ path value, (path, .document value) ∈ l.sources t paths →
    match Api.load value path with
    | .ok d => d ∈ (l.load t paths).1.documents
    | .error f => f ∈ (l.load t paths).1.failures
  /-- The inputs are the classes and the object schemas of the sources. -/
  listed : ∀ path input, (path, input) ∈ l.inputs t paths ↔
    ∃ s, (path, s) ∈ l.sources t paths ∧ s.Lists (l.context t paths) path input
  entities : (l.load t paths).1.entities = firsts (·.name) (Loaded.found (l.inputs t paths))
  /-- An input gives its entity, unless it fails or an earlier one has its name, whose file is then
  noted. -/
  input : ∀ before path input after, l.inputs t paths = before ++ (path, input) :: after →
    match input.extract with
    | .error f => f ∈ (l.load t paths).1.failures
    | .ok e =>
      match (Loaded.found before).find? (·.name == e.name) with
      | none => e.within path ∈ (l.load t paths).1.entities
      | some first => first ∈ (l.load t paths).1.entities ∧
        ∃ i ∈ before, i.2.entity? i.1 = some first ∧
          ∃ file, first.filePath = some file ∧ samePath file i.1 = true ∧
            ⟨path, .duplicateEntity e.name file⟩ ∈ (l.load t paths).1.failures
  /-- An entity names the file it is from, as it was spelled when the loader read it. -/
  file : ∀ path input e, (path, input) ∈ l.inputs t paths → input.entity? path = some e →
    ∃ file, e.filePath = some file ∧ samePath file path = true ∧
      (l.find? path = none → file = path)
  /-- What is said of this load can be said of the next one. -/
  faithful : (l.load t paths).2.Faithful

theorem Faithful.filePath (h : l.Faithful) {path : String} {input : EntityInput} {e : Entity}
    (mem : (path, input) ∈ l.inputs t paths) (made : input.entity? path = some e) :
    ∃ file, e.filePath = some file ∧ samePath file path = true ∧
      (l.find? path = none → file = path) := by
  obtain ⟨r, r_mem, mem⟩ := List.mem_flatMap.mp mem
  obtain ⟨input', input_mem, same⟩ := List.mem_map.mp mem
  cases same
  obtain ⟨extracted, ok, rfl⟩ := Option.map_eq_some_iff.mp made
  rw [toOption_eq_some_iff] at ok
  obtain ⟨-, l', read⟩ := source_of_readable (readable_of_mem_sources r_mem).2
  obtain ⟨-, file, same, unknown, text, text_read⟩ := h.source read
  rcases Source.filePath_within text_read input_mem ok with recorded | listed
  · exact ⟨file, recorded, same, unknown⟩
  · exact ⟨r.1, listed, samePath_iff.mpr rfl, fun _ => rfl⟩

/-- A load accounts for every input. -/
theorem load_accounts (h : l.Faithful) (t : FileTree) (paths : List String) : l.Accounts t paths := by
  have takes := takes_load l t paths
  refine ⟨unique_load l t paths, ?_, ?_, takes.documents, ?_, fun _ _ => mem_inputs_iff, takes.entities,
    ?_, fun path input e => h.filePath, h.load t paths⟩
  · intro p mem
    refine (read_or_failed mem).imp_right fun ⟨f, noted, failed⟩ => ?_
    exact ⟨f, takes.before noted, failed⟩
  · rintro before p after f rfl failed
    exact takes.before (mem_failures_of_unread failed)
  · intro path value mem
    split
    · next d loaded =>
      rw [takes.documents]
      refine List.mem_filterMap.mpr ⟨_, mem, ?_⟩
      rw [Source.document?, loaded]
      rfl
    · next f failed => exact takes.failedDocument _ mem value f rfl failed
  · intro before path input after whole
    have listed : (path, input) ∈ l.inputs t paths := by simp [whole]
    split
    · next f failed => exact takes.failed _ listed f failed
    · next e extracted =>
      have made : input.entity? path = some (e.within path) := by
        rw [EntityInput.entity?, extracted]
        rfl
      have entities : Loaded.found (l.inputs t paths) =
          Loaded.found before ++ e.within path :: Loaded.found after := by
        simp [whole, Loaded.found, made]
      split
      · next new =>
        have loaded : (Loaded.found (l.inputs t paths)).find? (·.name == e.name) =
            some (e.within path) := by
          rw [entities, List.find?_append, new]
          simp
        exact mem_entities_of_find? loaded
      · next first old =>
        have loaded : (Loaded.found (l.inputs t paths)).find? (·.name == e.name) = some first := by
          rw [entities, List.find?_append, old]
          rfl
        refine ⟨mem_entities_of_find? loaded, ?_⟩
        obtain ⟨i, i_mem, i_made⟩ := List.mem_filterMap.mp (List.mem_of_find?_eq_some old)
        have i_listed : i ∈ l.inputs t paths := whole ▸ List.mem_append_left _ i_mem
        obtain ⟨file, named, same, -⟩ := h.filePath i_listed i_made
        refine ⟨i, i_mem, i_made, file, named, same, ?_⟩
        have noted := takes.repeated before _ after whole e first extracted old
        rwa [named] at noted

/-- Two files that declare a class of one name. -/
def twice : FileTree where
  nodes := [
    (["d"], .directory),
    (["d", "a.json"], .file (some "\x7b\"name\":\"Pet\"\x7d")),
    (["d", "b.json"], .file (some "[\x7b\"name\":\"Pet\"\x7d,\x7b\"name\":\"Zoo\"\x7d]"))]
  locked := []

theorem load_accounts_twice :
    (Loader.empty.load twice ["d/a.json", "c.json", "d/b.json", "d/./a.json"]).1.failures =
      [⟨"c.json", .unreadableFile⟩, ⟨"d/b.json", .duplicateEntity "Pet" "d/a.json"⟩] ∧
    Loader.empty.Accounts twice ["d/a.json", "c.json", "d/b.json", "d/./a.json"] :=
  ⟨by decide, load_accounts faithful_empty _ _⟩

end Loader
end Scaffold

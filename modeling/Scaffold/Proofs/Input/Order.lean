/-
The order of the inputs does not matter. If no two inputs declare a class or an enum of one name and no
two have an entity of one name, what is loaded from them is the same in any order and with any inputs
among them that cannot be read: `Loader.load_reordered`.
-/
import Scaffold.Proofs.Declaration.Files
import Scaffold.Proofs.Input.Accounts

namespace Scaffold

variable {κ : Type} {place : String → κ}

/-! ## Files -/

/-- A declaration without its file, and what a file is known by. -/
def Declaration.located (place : String → κ) (d : Declaration) : Declaration × Option κ :=
  (d.movedTo none, d.filePath.map place)

/-- An entity without its file, and what a file is known by. -/
def Entity.located (place : String → κ) (e : Entity) : Entity × Option κ :=
  (e.movedTo none, e.filePath.map place)

theorem Entity.located_within (e : Entity) (path : String) :
    (e.within path).located place = (e.movedTo none, (e.filePath.map place).or (some (place path))) := by
  cases file : e.filePath <;> simp [located, within, movedTo, file]

theorem Entity.located_injective : Function.Injective (located id) := by
  intro e e' same
  obtain ⟨bare, file⟩ := Prod.mk.inj same
  rw [Option.map_id, id, id] at file
  calc e = (e.movedTo none).movedTo e.filePath := rfl
    _ = (e'.movedTo none).movedTo e'.filePath := by rw [bare, file]
    _ = e' := rfl

namespace EntityInput

variable {p q : String}

/-- The entity of a class is the same in every context that differs in files only. -/
theorem located_declaration (context : Context) (d : Declaration) (path : String) :
    ((declaration context d).entity? path).map (·.located place) =
      (context.withoutFiles.extract (d.movedTo none)).toOption.map fun e =>
        (e, (d.filePath.map place).or (some (place path))) := by
  rw [entity?, extract, Context.extract_withoutFiles]
  cases extracted : context.extract d with
  | error f => rfl
  | ok e =>
    show some ((e.within path).located place) = some _
    rw [Entity.located_within, Context.filePath_extract extracted]

theorem located_congr (same : place p = place q) (input : EntityInput) :
    (input.entity? p).map (·.located place) = (input.entity? q).map (·.located place) := by
  rw [entity?, entity?, Option.map_map, Option.map_map]
  congr 1
  funext e
  rw [Function.comp_apply, Function.comp_apply, Entity.located_within, Entity.located_within, same]

theorem located_schema (same : place p = place q) (document : Json) (name : String) :
    ((schema document name p).entity? p).map (·.located place) =
      ((schema document name q).entity? q).map (·.located place) := by
  rw [entity?, entity?, extract, extract, Api.toOption_extractEntity p q]
  cases extracted : Api.extractEntity document name p with
  | error f => rfl
  | ok e =>
    have file := Api.filePath_extractEntity extracted
    show some ((e.within p).located place) = some (((e.movedTo (some q)).within q).located place)
    rw [Entity.located_within, Entity.located_within, file]
    simp [Entity.movedTo, same]

end EntityInput

/-! ## Sources -/

/-- Sources that differ in the files of declarations only, and these are not told apart. -/
inductive Source.Agrees (place : String → κ) : Source → Source → Prop
  | declarations {ds ds' : List Declaration}
      (located : ds.map (·.located place) = ds'.map (·.located place)) :
      Agrees place (.declarations ds) (.declarations ds')
  | relational (m : MappingModel) (ds : List Declaration) :
      Agrees place (.relational m ds) (.relational m ds)
  | document (value : Json) : Agrees place (.document value) (.document value)

namespace Source

theorem agrees_refl (s : Source) : s.Agrees place s := by
  cases s with
  | declarations ds => exact .declarations rfl
  | relational m ds => exact .relational m ds
  | document value => exact .document value

theorem agrees_movedTo {p q : String} (same : place p = place q) (s : Source) :
    (s.movedTo p).Agrees place (s.movedTo q) := by
  cases s with
  | declarations ds =>
    refine .declarations ?_
    rw [List.map_map, List.map_map]
    refine List.map_congr_left fun d _ => ?_
    exact congrArg (fun file => (d.movedTo none, some file)) same
  | relational m ds => exact .relational m ds
  | document value => exact .document value

variable {s s' : Source}

/-- What a source declares for others, without files. -/
def declared (s : Source) : List Declaration :=
  s.shared.map (·.movedTo none)

theorem Agrees.declared (h : s.Agrees place s') : s.declared = s'.declared := by
  cases h with
  | declarations located =>
    have bare := congrArg (List.map Prod.fst) located
    rwa [List.map_map, List.map_map] at bare
  | relational | document => rfl

/-- The entities of a source at a path, with what their files are known by. -/
def yield (place : String → κ) (context : Context) (s : Source) (path : String) :
    List (Entity × Option κ) :=
  (s.inputs context path).filterMap fun input => (input.entity? path).map (·.located place)

theorem yield_declarations (context : Context) (ds : List Declaration) (path : String) :
    yield place context (.declarations ds) path =
      ((ds.map (·.located place)).filter (!·.1.isEnum)).filterMap fun d =>
        (context.withoutFiles.extract d.1).toOption.map fun e => (e, d.2.or (some (place path))) := by
  rw [yield, inputs, List.filterMap_map, List.filter_map, List.filterMap_map]
  refine List.filterMap_congr fun d _ => ?_
  exact EntityInput.located_declaration context d path

/-- The entities of a source depend neither on the files of the context nor on how its path is
spelled. -/
theorem Agrees.yield (h : s.Agrees place s') {context context' : Context} {p q : String}
    (contexts : context.withoutFiles = context'.withoutFiles) (same : place p = place q) :
    s.yield place context p = s'.yield place context' q := by
  cases h with
  | declarations located => rw [yield_declarations, yield_declarations, located, contexts, same]
  | relational m ds =>
    exact List.filterMap_congr fun input _ => EntityInput.located_congr same input
  | document value =>
    rw [Source.yield, Source.yield, inputs, inputs, List.filterMap_map, List.filterMap_map]
    exact List.filterMap_congr fun name _ => EntityInput.located_schema same value name

theorem Agrees.document? (h : s.Agrees place s') (p q : String) : s.document? p = s'.document? q := by
  cases h with
  | declarations | relational => rfl
  | document value => exact Api.toOption_load q p value

end Source

namespace Loader

variable {l : Loader} {t : FileTree} {paths paths' : List String}

/-! ## Sources in another order -/

theorem agrees_of_readable {p q : String} {s s' : Source} (here : l.readable t p = some (p, s))
    (there : l.readable t q = some (q, s')) (same : Path.key p = Path.key q)
    (places : place p = place q) : s.Agrees place s' := by
  rcases source_respelled same here there with rfl | ⟨moved, moved'⟩
  · exact s.agrees_refl
  · have agrees := s.agrees_movedTo places
    rwa [← moved, ← moved'] at agrees

/-- The same can be read at both lists of paths, as often. -/
def Reorders (l : Loader) (t : FileTree) (paths paths' : List String) : Prop :=
  (paths.filterMap (l.readable t)).Perm (paths'.filterMap (l.readable t))

theorem reorders_of_perm {broken : List String} (order : paths'.Perm (paths ++ broken))
    (fails : ∀ p ∈ broken, ∃ f, l.source t p = .error f) : l.Reorders t paths paths' := by
  have none : broken.filterMap (l.readable t) = [] := by
    refine List.filterMap_eq_nil_iff.mpr fun p mem => ?_
    obtain ⟨f, failed⟩ := fails p mem
    exact readable_of_error failed
  have readable := order.filterMap (l.readable t)
  rw [List.filterMap_append, none, List.append_nil] at readable
  exact readable.symm

/-- What is said of sources is the same in any order, if it does not depend on spelling. -/
theorem Reorders.perm_map_sources (h : l.Reorders t paths paths') {β : Type}
    {view : String × Source → β}
    (agree : ∀ p s q s', p ∈ paths → q ∈ paths → l.readable t p = some (p, s) →
      l.readable t q = some (q, s') → Path.key p = Path.key q → view (p, s) = view (q, s')) :
    ((l.sources t paths).map view).Perm ((l.sources t paths').map view) := by
  rw [sources_eq, sources_eq]
  refine perm_map_firsts h fun r mem r' mem' same => ?_
  obtain ⟨r_mem, readable⟩ := readable_of_mem mem
  obtain ⟨r'_mem, readable'⟩ := readable_of_mem mem'
  exact agree r.1 r.2 r'.1 r'.2 r_mem r'_mem readable readable' same

/-! ## Loads -/

/-- No two inputs declare a class or an enum of one name, and no two have an entity of one name. -/
structure Apart (l : Loader) (t : FileTree) (paths : List String) : Prop where
  declarations : ((l.sources t paths).map fun r => r.2.shared.map (·.name)).Pairwise List.Disjoint
  entities : ((l.sources t paths).map fun r =>
    (r.2.inputs (l.context t paths) r.1).filterMap fun input =>
      (input.entity? r.1).map (·.name)).Pairwise List.Disjoint

theorem withoutFiles_context (l : Loader) (t : FileTree) (paths : List String) :
    (l.context t paths).withoutFiles =
      .ofDeclarations ((l.sources t paths).map fun r => r.2.declared).flatten := by
  rw [context, Context.withoutFiles_ofDeclarations, List.map_flatMap, List.flatMap_def]
  rfl

theorem Apart.context (apart : l.Apart t paths) (h : l.Reorders t paths paths') :
    (l.context t paths).withoutFiles = (l.context t paths').withoutFiles := by
  rw [withoutFiles_context, withoutFiles_context]
  refine Context.ofDeclarations_perm (h.perm_map_sources fun p s q s' _ _ here there same => ?_) ?_
  · exact (agrees_of_readable here there same same).declared
  · have names := apart.declarations
    rw [List.pairwise_map] at names ⊢
    refine names.imp fun {r r'} disjoint => ?_
    rw [Source.declared, Source.declared, List.map_map, List.map_map]
    exact disjoint

theorem located_entities (place : String → κ) (l : Loader) (t : FileTree) (paths : List String) :
    (l.load t paths).1.entities.map (·.located place) = firsts (·.1.name)
      ((l.sources t paths).map fun r => r.2.yield place (l.context t paths) r.1).flatten := by
  have firsts_located (es : List Entity) : (firsts (·.name) es).map (·.located place) =
      firsts (·.1.name) (es.map (·.located place)) :=
    map_firsts (fun found : Entity × Option κ => found.1.name) (Entity.located place) es
  rw [(takes_load l t paths).entities, firsts_located, Loaded.found, inputs, List.filterMap_flatMap,
    List.map_flatMap, List.flatMap_def]
  congr 2
  refine List.map_congr_left fun r _ => ?_
  rw [List.filterMap_map, List.map_filterMap]
  rfl

/-- The entities are the same if their files are not told apart where they are spelled differently. -/
theorem Apart.perm_entities (apart : l.Apart t paths) (h : l.Reorders t paths paths')
    (places : ∀ p ∈ paths, ∀ q ∈ paths, Path.key p = Path.key q → place p = place q) :
    ((l.load t paths).1.entities.map (·.located place)).Perm
      ((l.load t paths').1.entities.map (·.located place)) := by
  have contexts := apart.context h
  -- First the sources are permuted under one context, then the context is exchanged.
  have here : ((l.sources t paths).map fun r => r.2.yield place (l.context t paths) r.1).Perm
      ((l.sources t paths').map fun r => r.2.yield place (l.context t paths) r.1) := by
    refine h.perm_map_sources fun p s q s' p_mem q_mem here there same => ?_
    have spelled := places p p_mem q q_mem same
    exact (agrees_of_readable here there same spelled).yield rfl spelled
  have there : ((l.sources t paths').map fun r => r.2.yield place (l.context t paths) r.1) =
      (l.sources t paths').map fun r => r.2.yield place (l.context t paths') r.1 :=
    List.map_congr_left fun r _ => r.2.agrees_refl.yield contexts rfl
  rw [located_entities, located_entities, ← there]
  refine perm_firsts_flatten here ?_
  have names := apart.entities
  rw [List.pairwise_map] at names ⊢
  refine names.imp fun {r r'} disjoint => ?_
  rw [Source.yield, Source.yield, List.map_filterMap, List.map_filterMap]
  simp only [Option.map_map]
  exact disjoint

theorem Reorders.perm_documents (h : l.Reorders t paths paths') :
    (l.load t paths).1.documents.Perm (l.load t paths').1.documents := by
  have documents : ((l.sources t paths).map fun r => r.2.document? r.1).Perm
      ((l.sources t paths').map fun r => r.2.document? r.1) :=
    h.perm_map_sources fun p s q s' _ _ here there same =>
      (agrees_of_readable here there same same).document? p q
  rw [(takes_load l t paths).documents, (takes_load l t paths').documents]
  have listed := documents.filterMap id
  rwa [List.filterMap_map, List.filterMap_map] at listed

/-- In another order, and with inputs among them that cannot be read, the inputs give the same
documents and the same entities, in files at the same places. The files are spelled the same too, if no
path is listed under two spellings. -/
theorem load_reordered {broken : List String} (apart : l.Apart t paths)
    (order : paths'.Perm (paths ++ broken))
    (fails : ∀ p ∈ broken, ∃ f, l.source t p = .error f) :
    (l.load t paths).1.documents.Perm (l.load t paths').1.documents ∧
      ((l.load t paths).1.entities.map (·.located Path.key)).Perm
        ((l.load t paths').1.entities.map (·.located Path.key)) ∧
      ((∀ p ∈ paths, ∀ q ∈ paths, samePath p q = true → p = q) →
        (l.load t paths).1.entities.Perm (l.load t paths').1.entities) := by
  have reorders := reorders_of_perm order fails
  refine ⟨reorders.perm_documents, ?_, fun spelled => ?_⟩
  · exact apart.perm_entities reorders fun p _ q _ same => same
  · rw [← List.map_perm_map_iff Entity.located_injective]
    exact apart.perm_entities reorders fun p p_mem q q_mem same =>
      spelled p p_mem q q_mem (samePath_iff.mpr same)

/-- Two files whose classes refer to each other. -/
def linked : FileTree where
  nodes := [
    (["d"], .directory),
    (["d", "a.json"], .file (some ("\x7b\"name\":\"Pet\",\"properties\":[" ++
      "\x7b\"name\":\"Home\",\"type\":\"Zoo\"\x7d]\x7d"))),
    (["d", "b.json"], .file (some ("\x7b\"name\":\"Zoo\",\"properties\":[" ++
      "\x7b\"name\":\"Star\",\"type\":\"Pet\"\x7d]\x7d")))]
  locked := []

theorem load_reordered_linked :
    ((Loader.empty.load linked ["d/a.json", "d/b.json"]).1.entities.map fun e =>
      (e.name, e.navigations.map (·.name))) = [("Pet", ["Home"]), ("Zoo", ["Star"])] ∧
    (Loader.empty.load linked ["d/a.json", "d/b.json"]).1.entities.Perm
      (Loader.empty.load linked ["c.json", "d/b.json", "d/a.json"]).1.entities := by
  have names : ((Loader.empty.sources linked ["d/a.json", "d/b.json"]).map fun r =>
      r.2.shared.map (·.name)) = [["Pet"], ["Zoo"]] := by decide
  have entities : ((Loader.empty.sources linked ["d/a.json", "d/b.json"]).map fun r =>
      (r.2.inputs (Loader.empty.context linked ["d/a.json", "d/b.json"]) r.1).filterMap fun input =>
        (input.entity? r.1).map (·.name)) = [["Pet"], ["Zoo"]] := by decide
  have apart : Loader.empty.Apart linked ["d/a.json", "d/b.json"] := by
    refine ⟨?_, ?_⟩
    · rw [names]
      simp
    · rw [entities]
      simp
  have order : ["c.json", "d/b.json", "d/a.json"].Perm (["d/a.json", "d/b.json"] ++ ["c.json"]) := by
    decide
  have fails : ∀ p ∈ ["c.json"], ∃ f, Loader.empty.source linked p = .error f := by
    intro p mem
    rw [List.mem_singleton.mp mem]
    exact ⟨⟨"c.json", .unreadableFile⟩, rfl⟩
  obtain ⟨-, -, same⟩ := load_reordered apart order fails
  exact ⟨by decide, same (by decide)⟩

end Loader
end Scaffold

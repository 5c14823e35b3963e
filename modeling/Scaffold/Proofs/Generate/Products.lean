/-
What is generated, file by file: each file is made for an entity, a tag or a named type, which fixes
its directory and its name, whatever its text is.
-/
import Scaffold.Generate.Run
import Scaffold.Proofs.Failing
import Scaffold.Proofs.Text.Path

namespace Scaffold

/-- What a file is made for. -/
inductive Product where
  | dto (e : Entity) (kind : DtoKind)
  /-- The module that gathers the transfer objects of an entity. -/
  | dtoIndex (e : Entity)
  | manager (e : Entity)
  | controller (e : Entity)
  | tagController (tag : String)
  | service (tag : String)
  | model (name : String)
  /-- The module that gathers the models of a document. -/
  | modelIndex

namespace Product

def directory (config : Config) : Product → String
  | dto e _ => Dto.directory config.dtoTarget config.naming e
  | dtoIndex e => Dto.directory .rust config.naming e
  | manager e => Manager.directory config.naming e
  | controller e => Controller.directory config.naming e
  | tagController _ => config.naming.controllerDir
  | service _ => Client.servicesDir config.clientTarget config.naming
  | model _ => Client.modelsDir config.clientTarget config.naming
  | modelIndex => Client.modelsDir .typescript config.naming

def fileName (config : Config) : Product → String
  | dto e kind => Dto.fileName config.dtoTarget e kind
  | dtoIndex _ => "mod.rs"
  | manager e => Manager.fileName e
  | controller e => Controller.fileName e.name
  | tagController tag => Controller.fileName (Text.pascalCase tag)
  | service tag => Client.serviceFileName config.clientTarget tag
  | model name => Client.modelFileName config.clientTarget name
  | modelIndex => "index.ts"

def path (config : Config) (p : Product) : String :=
  Path.join (p.directory config) (p.fileName config)

/-- What is made for an entity. -/
def ofEntity (config : Config) (e : Entity) : Artifact → List Product
  | .dto => DtoKind.all.map (dto e) ++ if config.dtoTarget = .rust then [dtoIndex e] else []
  | .manager => [manager e]
  | .controller => [controller e]
  | .client => []

/-- What is made for a document. -/
def ofDocument (config : Config) (d : Api.Document) : Artifact → List Product
  | .controller => d.tags.map tagController
  | .client =>
    d.tags.map service ++ d.types.values.map (fun definition => model definition.name) ++
      if config.clientTarget = .typescript ∧ !d.types.entries.isEmpty then [modelIndex] else []
  | .dto => []
  | .manager => []

end Product

/-! ## Files of one kind -/

section

variable {α β γ : Type}

theorem map_eq_of_mapM {f : α → Except Fault β} {g : β → γ} {h : α → γ} {xs : List α} {ys : List β}
    (each : ∀ x ∈ xs, ∀ y, f x = .ok y → g y = h x) (all : xs.mapM f = .ok ys) :
    ys.map g = xs.map h := by
  induction xs generalizing ys with
  | nil =>
    cases all
    rfl
  | cons x xs ih =>
    rw [List.mapM_cons] at all
    obtain ⟨y, first, all⟩ := eq_ok_of_bind all
    obtain ⟨rest, others, all⟩ := eq_ok_of_bind all
    cases all
    rw [List.map_cons, List.map_cons, each x List.mem_cons_self y first,
      ih (fun x mem => each x (List.mem_cons_of_mem _ mem)) others]

end

variable {library : Library} {config : Config}

/-- A rendered file lies in its directory whatever its text is. -/
theorem path_of_render (change : String → String) {dir name template : String} {data : Json}
    {f : GeneratedFile}
    (h : (do let text ← library.render template data; return GeneratedFile.inDir dir name (change text)) =
      (.ok f : Except Fault GeneratedFile)) : f.path = Path.join dir name := by
  obtain ⟨text, -, h⟩ := eq_ok_of_bind h
  cases h
  rfl

open Product

theorem paths_dto {e : Entity} {files : List GeneratedFile}
    (h : Dto.files library config e = .ok files) :
    files.map (·.path) = (ofEntity config e .dto).map (path config) := by
  unfold Dto.files at h
  obtain ⟨root, -, h⟩ := eq_ok_of_bind h
  obtain ⟨shapes, all, h⟩ := eq_ok_of_bind h
  have shape_paths := map_eq_of_mapM (g := (·.path)) (h := fun kind => (dto e kind).path config)
    (fun kind _ f made => path_of_render _ made) all
  rw [ofEntity, List.map_append, List.map_map]
  split at h
  · next rust =>
    obtain ⟨index, made, h⟩ := eq_ok_of_bind h
    have index_path : index.path = (dtoIndex e).path config := path_of_render id made
    cases h
    rw [if_pos rust, List.map_append, shape_paths, List.map_singleton, List.map_singleton, index_path]
    rfl
  · next other =>
    cases h
    rw [if_neg other, shape_paths, List.map_nil, List.append_nil]
    rfl

theorem paths_manager {e : Entity} {files : List GeneratedFile}
    (h : Manager.files library config e = .ok files) :
    files.map (·.path) = (ofEntity config e .manager).map (path config) := by
  unfold Manager.files at h
  obtain ⟨root, -, h⟩ := eq_ok_of_bind h
  obtain ⟨text, -, h⟩ := eq_ok_of_bind h
  cases h
  rfl

theorem paths_controller {e : Entity} {files : List GeneratedFile}
    (h : Controller.files library config e = .ok files) :
    files.map (·.path) = (ofEntity config e .controller).map (path config) := by
  unfold Controller.files at h
  obtain ⟨root, -, h⟩ := eq_ok_of_bind h
  obtain ⟨text, -, h⟩ := eq_ok_of_bind h
  cases h
  rfl

theorem paths_tagControllers {d : Api.Document} {files : List GeneratedFile}
    (h : Controller.documentFiles library config d = .ok files) :
    files.map (·.path) = (ofDocument config d .controller).map (path config) := by
  unfold Controller.documentFiles at h
  obtain ⟨root, -, h⟩ := eq_ok_of_bind h
  rw [ofDocument, List.map_map]
  have all : d.tags.mapM (Controller.tagFile library config.naming root d) = .ok files := h
  have tag_paths := map_eq_of_mapM (g := (·.path)) (h := fun tag => (tagController tag).path config)
    (fun tag _ f made => path_of_render id made) all
  simpa only [Function.comp_def] using tag_paths

theorem paths_client {d : Api.Document} {files : List GeneratedFile}
    (h : Client.files library config d = .ok files) :
    files.map (·.path) = (ofDocument config d .client).map (path config) := by
  unfold Client.files at h
  simp only at h
  split at h
  · cases h
  · obtain ⟨root, -, h⟩ := eq_ok_of_bind h
    obtain ⟨services, tags, h⟩ := eq_ok_of_bind h
    obtain ⟨models, types, h⟩ := eq_ok_of_bind h
    have service_paths := map_eq_of_mapM (g := (·.path)) (h := fun tag => (service tag).path config)
      (fun tag _ f made => path_of_render id made) tags
    have model_paths := map_eq_of_mapM (g := (·.path))
      (h := fun definition => (model definition.name).path config)
      (fun definition _ f made => path_of_render id made) types
    rw [ofDocument, List.map_append, List.map_append, List.map_map, List.map_map]
    split at h
    · next indexed =>
      obtain ⟨index, made, h⟩ := eq_ok_of_bind h
      have index_path : index.path = modelIndex.path config := path_of_render id made
      cases h
      rw [if_pos indexed, List.map_append, List.map_append, service_paths, model_paths,
        List.map_singleton, List.map_singleton, index_path]
      rfl
    · next plain =>
      cases h
      rw [if_neg plain, List.map_append, service_paths, model_paths, List.map_nil, List.append_nil]
      rfl

/-! ## Files of an entity, a document and a run -/

/-- What is made for an entity or a document, given what is made of each kind. -/
def Config.products (config : Config) (ofKind : Artifact → List Product) : List Product :=
  config.wanted.flatMap ofKind

theorem paths_wanted {filesOf : Artifact → Except Fault (List GeneratedFile)}
    {ofKind : Artifact → List Product} {files : List GeneratedFile}
    (each : ∀ a files, filesOf a = .ok files → files.map (·.path) = (ofKind a).map (path config))
    (h : (do return (← config.wanted.mapM filesOf).flatten) = (.ok files : Except Fault _)) :
    files.map (·.path) = (config.products ofKind).map (path config) := by
  obtain ⟨lists, all, h⟩ := eq_ok_of_bind h
  have kinds := map_eq_of_mapM (g := List.map (·.path)) (h := fun a => (ofKind a).map (path config))
    (fun a _ => each a) all
  cases h
  rw [List.map_flatten, kinds, Config.products, List.map_flatMap, List.flatMap_def]

theorem paths_entityFiles {e : Entity} {files : List GeneratedFile}
    (h : entityFiles library config e = .ok files) :
    files.map (·.path) = (config.products (ofEntity config e)).map (path config) := by
  refine paths_wanted (fun a files h => ?_) h
  cases a with
  | dto => exact paths_dto h
  | manager => exact paths_manager h
  | controller => exact paths_controller h
  | client =>
    cases h
    rfl

theorem paths_documentFiles {d : Api.Document} {files : List GeneratedFile}
    (h : documentFiles library config d = .ok files) :
    files.map (·.path) = (config.products (ofDocument config d)).map (path config) := by
  refine paths_wanted (fun a files h => ?_) h
  cases a with
  | dto =>
    cases h
    rfl
  | manager =>
    cases h
    rfl
  | controller => exact paths_tagControllers h
  | client => exact paths_client h

/-- What is made for entities and documents. -/
def Config.allProducts (config : Config) (entities : List Entity) (documents : List Api.Document) :
    List Product :=
  entities.flatMap (fun e => config.products (ofEntity config e)) ++
    documents.flatMap fun d => config.products (ofDocument config d)

/-- The output has more files, which are some of those that are made. -/
def Output.Gains (config : Config) (o o' : Output) (products : List Product) : Prop :=
  ∃ files, o'.files = o.files ++ files ∧
    (files.map (·.path)).Sublist (products.map (path config))

namespace Output.Gains

variable {o o' o'' : Output}

theorem none (same : o'.files = o.files) (products : List Product) : Gains config o o' products :=
  ⟨[], by rw [same, List.append_nil], List.nil_sublist _⟩

theorem trans {ps qs : List Product} (first : Gains config o o' ps)
    (second : Gains config o' o'' qs) : Gains config o o'' (ps ++ qs) := by
  obtain ⟨files, more, sub⟩ := first
  obtain ⟨files', more', sub'⟩ := second
  refine ⟨files ++ files', by rw [more', more, List.append_assoc], ?_⟩
  rw [List.map_append, List.map_append]
  exact sub.append sub'

theorem foldlM {α : Type} (step : Output → α → Except Fault Output) (ofItem : α → List Product)
    (each : ∀ x o o', step o x = .ok o' → Gains config o o' (ofItem x)) {xs : List α}
    (all : xs.foldlM step o = .ok o') : Gains config o o' (xs.flatMap ofItem) := by
  induction xs generalizing o with
  | nil =>
    cases all
    exact .none rfl _
  | cons x xs ih =>
    rw [List.foldlM_cons] at all
    obtain ⟨middle, first, all⟩ := eq_ok_of_bind all
    exact (each x o middle first).trans (ih all)

theorem addEntity {e : Entity} (h : o.addEntity library config e = .ok o') :
    Gains config o o' (config.products (ofEntity config e)) := by
  unfold Output.addEntity at h
  split at h
  · next files made =>
    cases h
    exact ⟨files, rfl, (paths_entityFiles made).symm ▸ List.Sublist.refl _⟩
  · cases h
    exact .none rfl _
  · cases h

theorem addDocument {d : Api.Document} (h : o.addDocument library config d = .ok o') :
    Gains config o o' (config.products (ofDocument config d)) := by
  unfold Output.addDocument at h
  cases made : documentFiles library config d with
  | error fault =>
    rw [made] at h
    cases h
  | ok files =>
    rw [made] at h
    cases h
    exact ⟨files, rfl, (paths_documentFiles made).symm ▸ List.Sublist.refl _⟩

end Output.Gains

/-- The files of a run are made for what was loaded and chosen, though not all of them are if an
entity fails. -/
theorem paths_generateFiles {t : FileTree} {output : Output}
    (h : generateFiles t config = .ok output) :
    (output.files.map (·.path)).Sublist
      ((config.allProducts
        ((Loader.empty.load t config.entityPaths).1.entities.filter fun e => config.selects e.name)
        (Loader.empty.load t config.entityPaths).1.documents).map (path config)) := by
  unfold generateFiles at h
  generalize Loader.empty.load t config.entityPaths = loading at h ⊢
  obtain ⟨loaded, loader⟩ := loading
  obtain ⟨-, -, h⟩ := eq_ok_of_bind h
  obtain ⟨library, -, h⟩ := eq_ok_of_bind h
  obtain ⟨middle, entities, documents⟩ := eq_ok_of_bind h
  have first := Output.Gains.foldlM (Output.addEntity library config)
    (fun e => config.products (ofEntity config e)) (fun _ _ _ => .addEntity) entities
  have second := Output.Gains.foldlM (Output.addDocument library config)
    (fun d => config.products (ofDocument config d)) (fun _ _ _ => .addDocument) documents
  obtain ⟨files, all, sub⟩ := first.trans second
  rw [all]
  exact sub

end Scaffold

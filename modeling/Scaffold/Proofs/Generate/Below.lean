/-
Generated files lie below the output directory, as long as the directories of the configuration do and no
name leads out of them (`files_below`). Only the names and modules of entities can: C# has them as they
stand in directories and in the names of managers and controllers, while all other names are put in an
identifier style, in which there are neither slashes nor points.
-/
import Scaffold.Proofs.Api.GivenNames
import Scaffold.Proofs.Confinement
import Scaffold.Proofs.Generate.Places

namespace Scaffold

open Text Scaffold.Path

/-! ## What stays below -/

/-- The directories of generated code stay below the output directory. -/
structure Naming.StaysBelow (naming : Naming) : Prop where
  dto : IsBelow naming.dtoDir
  manager : IsBelow naming.managerDir
  controller : IsBelow naming.controllerDir
  client : IsBelow naming.clientDir

/-- Neither the module of an entity nor its name leads out of the directory it is put in. -/
@[mk_iff]
structure Entity.StaysBelow (e : Entity) : Prop where
  module : ∀ module, e.module? = some module → IsBelow module
  name : Leads e.name

/-- Names of entities stand in paths as they are. -/
def Config.SpellsNames (config : Config) : Prop :=
  config.wants .manager ∨ config.wants .controller ∨ config.wants .dto ∧ config.dtoTarget = .csharp

theorem Target.isBelow_dirName {target : Target} (other : target ≠ .csharp) (name : String) :
    IsBelow (target.dirName name) := by
  have no_dots {style : String} (point : '.' ∉ style.toList) : style ≠ ".." := by
    rintro rfl
    exact point (by decide)
  cases target with
  | csharp => exact absurd rfl other
  | typescript =>
    exact isBelow_of_whole (slash_notMem_kebabCase name)
      (no_dots (caseClosed_notPoint.notMem_separated (by decide) (by decide) name))
  | rust =>
    exact isBelow_of_whole (slash_notMem_snakeCase name)
      (no_dots (caseClosed_notPoint.notMem_separated (by decide) (by decide) name))

variable {naming : Naming} {config : Config} {e : Entity} {dir : String}

/-- A directory with one for the module of an entity in it, if it has one. -/
theorem isBelow_module_iff (below : IsBelow dir) (style : String → String) :
    IsBelow (match e.module? with | some module => join dir (style module) | none => dir) ↔
      ∀ module, e.module? = some module → IsBelow (style module) := by
  cases e.module? with
  | none => exact iff_of_true below nofun
  | some module =>
    rw [isBelow_join_iff, and_iff_right below]
    simp

theorem Dto.isBelow_directory_iff (below : IsBelow naming.dtoDir) (target : Target) (e : Entity) :
    IsBelow (Dto.directory target naming e) ↔ (target = .csharp → e.StaysBelow) := by
  have parts : IsBelow (Dto.directory target naming e) ↔
      (∀ module, e.module? = some module → IsBelow (target.dirName module)) ∧
        IsBelow (target.dirName (e.name ++ "Dtos")) := by
    rw [Dto.directory, isBelow_join_iff]
    exact and_congr_left' (isBelow_module_iff below target.dirName)
  rw [parts]
  by_cases csharp : target = .csharp
  · rw [csharp]
    refine ⟨fun ⟨module, name⟩ _ => ⟨module, (isBelow_append_iff (by decide) (by decide)).mp name⟩, ?_⟩
    intro stays
    exact ⟨(stays rfl).module, (isBelow_append_iff (by decide) (by decide)).mpr (stays rfl).name⟩
  · have styled (name : String) := Target.isBelow_dirName csharp name
    exact iff_of_true ⟨fun _ _ => styled _, styled _⟩ fun same => absurd same csharp

namespace Product

/-! ## Products -/

theorem isBelow_fileName {p : Product}
    (whole : ∀ name, p.spelled? config = some name → '/' ∉ name.toList) : IsBelow (p.fileName config) := by
  obtain ⟨front, name⟩ := p.fileName_eq config
  have long := ending_length config.dtoTarget config.clientTarget p.role
  refine isBelow_of_whole (slash_notMem_fileName whole) fun dots => ?_
  rw [dots] at name
  have length := congrArg List.length name
  have two : "..".toList.length = 2 := by decide
  rw [List.length_append, two] at length
  omega

/-- A name in an identifier style leads nowhere. -/
theorem isBelow_fileName_of_styled {p : Product} (styled : p.spelled? config = none) :
    IsBelow (p.fileName config) := by
  refine isBelow_fileName fun name spelled => ?_
  rw [styled] at spelled
  cases spelled

theorem isBelow_managerName_iff : IsBelow (Manager.fileName e) ↔ Leads e.name := by
  rw [Manager.fileName, managerName, String.append_assoc]
  exact isBelow_append_iff (by decide) (by decide)

theorem isBelow_controllerName_iff : IsBelow (Controller.fileName e.name) ↔ Leads e.name := by
  rw [Controller.fileName, controllerName, String.append_assoc]
  exact isBelow_append_iff (by decide) (by decide)

variable (dirs : config.naming.StaysBelow)

include dirs

/-- What is made for an entity in C# stays below exactly if the entity does. -/
theorem isBelow_ofEntity_iff {a : Artifact} {p : Product} (mem : p ∈ ofEntity config e a) :
    IsBelow (p.path config) ↔ ((a = .dto → config.dtoTarget = .csharp) → e.StaysBelow) := by
  rw [path, isBelow_join_iff]
  rcases of_mem_ofEntity mem with ⟨rfl, ⟨kind, rfl⟩ | ⟨rfl, rust⟩⟩ | ⟨rfl, rfl⟩ | ⟨rfl, rfl⟩
  -- The files of transfer objects are named in a style, so only their directory can lead out.
  · rw [and_iff_left (isBelow_fileName_of_styled (p := dto e kind) rfl), forall_prop_of_true rfl]
    exact Dto.isBelow_directory_iff dirs.dto config.dtoTarget e
  · rw [and_iff_left (isBelow_fileName_of_styled (p := dtoIndex e) rfl), forall_prop_of_true rfl, rust]
    exact Dto.isBelow_directory_iff dirs.dto .rust e
  · rw [forall_prop_of_true nofun, e.staysBelow_iff, ← isBelow_managerName_iff]
    exact and_congr_left' (isBelow_module_iff dirs.manager id)
  · rw [forall_prop_of_true nofun, e.staysBelow_iff, ← isBelow_controllerName_iff]
    exact and_congr_left' (isBelow_module_iff dirs.controller id)

/-- What is made for a document stays below if its types have no slashes in their names. -/
theorem isBelow_ofDocument {d : Api.Document}
    (whole : ∀ definition ∈ d.types.values, '/' ∉ definition.name.toList) {a : Artifact} {p : Product}
    (mem : p ∈ ofDocument config d a) : IsBelow (p.path config) := by
  have services : IsBelow (Client.servicesDir config.clientTarget config.naming) := by
    refine isBelow_join_iff.mpr ⟨dirs.client, ?_⟩
    cases config.clientTarget <;> decide
  have models (target : Target) : IsBelow (Client.modelsDir target config.naming) := by
    refine isBelow_join_iff.mpr ⟨dirs.client, ?_⟩
    cases target <;> decide
  rw [path, isBelow_join_iff]
  rcases of_mem_ofDocument mem with
    ⟨-, tag, -, rfl⟩ | ⟨-, ⟨tag, -, rfl⟩ | ⟨name, name_mem, rfl⟩ | ⟨rfl, -⟩⟩
  · exact ⟨dirs.controller, isBelow_fileName_of_styled rfl⟩
  · exact ⟨services, isBelow_fileName_of_styled rfl⟩
  · refine ⟨models _, isBelow_fileName fun spelled same => ?_⟩
    rw [spelled?] at same
    split at same
    · obtain ⟨definition, definition_mem, rfl⟩ := List.mem_map.mp name_mem
      cases same
      exact whole definition definition_mem
    · cases same
  · exact ⟨models _, isBelow_fileName_of_styled rfl⟩

/-- All that is made for an entity stays below exactly if the entity does, where its name counts. -/
theorem isBelow_entityProducts_iff :
    (∀ p ∈ config.products (ofEntity config e), IsBelow (p.path config)) ↔
      (config.SpellsNames → e.StaysBelow) := by
  constructor
  · intro below spells
    -- One product with the name as it stands is enough.
    have artifact (a : Artifact) (wanted : config.wants a) (csharp : a = .dto → config.dtoTarget = .csharp)
        {p : Product} (mem : p ∈ ofEntity config e a) : e.StaysBelow := by
      have listed : a ∈ config.wanted := List.mem_filter.mpr ⟨by cases a <;> decide, wanted⟩
      exact (isBelow_ofEntity_iff dirs mem).mp (below p (List.mem_flatMap_of_mem listed mem)) csharp
    rcases spells with manager | controller | ⟨dto, csharp⟩
    · exact artifact .manager manager nofun List.mem_cons_self
    · exact artifact .controller controller nofun List.mem_cons_self
    · exact artifact .dto dto (fun _ => csharp) (List.mem_append_left _ List.mem_cons_self)
  · intro stays p mem
    obtain ⟨a, wanted, mem⟩ := List.mem_flatMap.mp mem
    have wanted := (List.mem_filter.mp wanted).2
    refine (isBelow_ofEntity_iff dirs mem).mpr fun csharp => stays ?_
    cases a with
    | dto => exact .inr (.inr ⟨wanted, csharp rfl⟩)
    | manager => exact .inl wanted
    | controller => exact .inr (.inl wanted)
    | client => cases mem

/-- Documents have no say in where files lie: the names of their types were given out. -/
theorem isBelow_documentProducts {source : Json} {path : String} {d : Api.Document}
    (loaded : Api.load source path = .ok d) :
    ∀ p ∈ config.products (ofDocument config d), IsBelow (p.path config) := by
  have whole := Api.load_namesIn (P := fun name => '/' ∉ name.toList) Api.slash_notMem_candidate loaded
  intro p mem
  obtain ⟨a, -, mem⟩ := List.mem_flatMap.mp mem
  exact isBelow_ofDocument dirs whole mem

end Product

/-! ## Files -/

theorem isBelow_files_iff {files : List GeneratedFile} {products : List Product}
    (paths : files.map (·.path) = products.map (Product.path config)) :
    (∀ f ∈ files, IsBelow f.path) ↔ ∀ p ∈ products, IsBelow (p.path config) := by
  have own : (∀ s ∈ files.map (·.path), IsBelow s) ↔ ∀ f ∈ files, IsBelow f.path := List.forall_mem_map
  rw [← own, paths, List.forall_mem_map]

/-- Outside of a root nothing changes when the files are emitted, but what making the root changes. -/
def Emission.Confined (t : FileTree) (files : List GeneratedFile) (root : String) : Prop :=
  ∀ force place, ¬(Place.ofPath root).Inside place →
    (emit t files root force).1.find? place = (t.makeDirectory root).1.find? place

/-- With directories that stay below the output directory, the files of an entity stay below it exactly
if its name and its module do, wherever these stand in paths as they are; the files of a document do in
any case; and files that stay below a root are written nowhere else. -/
theorem files_below (config : Config) (dirs : config.naming.StaysBelow) :
    (∀ library e files, entityFiles library config e = .ok files →
      ((∀ f ∈ files, IsBelow f.path) ↔ (config.SpellsNames → e.StaysBelow))) ∧
    (∀ library source path d files, Api.load source path = .ok d →
      documentFiles library config d = .ok files → ∀ f ∈ files, IsBelow f.path) ∧
    ∀ (t : FileTree) files root, t.Rooted → (∀ f ∈ files, IsBelow f.path) →
      Emission.Confined t files root := by
  refine ⟨fun library e files made => ?_, fun library source path d files loaded made => ?_, ?_⟩
  · rw [isBelow_files_iff (paths_entityFiles made)]
    exact Product.isBelow_entityProducts_iff dirs
  · rw [isBelow_files_iff (paths_documentFiles made)]
    exact Product.isBelow_documentProducts dirs loaded
  · exact fun t files root rooted below force place outside =>
      Emission.find?_emit rooted below force outside

/-- A class of a name. Templates are empty. -/
def pets (name : String) : FileTree where
  nodes := [
    (["pet.json"], .file (some ("\x7b\"name\":\"" ++ name ++ "\"\x7d"))),
    (["t"], .directory), (["t", "manager.cs.j2"], .file (some "")),
    (["t", "controller.cs.j2"], .file (some ""))]
  locked := []

def petsConfig : Config where
  entityPaths := ["pet.json"]
  artifacts := [.manager, .controller]
  outputDir := "out"
  naming := { rootNamespace := some "Zoo" }
  templatesDir := some "t"

/-- An interface with a tag that leads up. -/
def cats : Json :=
  .object [("openapi", .string ""), ("paths", .object [("/", .object [("get", .object [
    ("tags", .array [.string "../../../Cats"])])])])]

theorem files_below_pets :
    petsConfig.naming.StaysBelow ∧ ∃ library e d files files',
      entityFiles library petsConfig e = .ok files ∧ e.StaysBelow ∧
      Api.load cats "cats.json" = .ok d ∧ documentFiles library petsConfig d = .ok files' ∧
      (files ++ files').map (·.path) = ["Application/Managers/shop/PetManager.cs",
        "Http.API/Controllers/shop/PetController.cs", "Http.API/Controllers/CatsController.cs"] ∧
      (∀ f ∈ files ++ files', IsBelow f.path) ∧ Emission.Confined .empty (files ++ files') "out" := by
  let library : Library :=
    [("manager.cs.j2", []), ("controller.cs.j2", []), ("api_controller.cs.j2", [])]
  let e : Entity := { Entity.empty "Pet" "Zoo" with moduleName := some "shop" }
  have dirs : petsConfig.naming.StaysBelow := ⟨by decide, by decide, by decide, by decide⟩
  have stays : e.StaysBelow := e.staysBelow_iff.mpr ⟨by decide, by decide⟩
  have entity : (entityFiles library petsConfig e).toOption.map (·.map (·.path)) = some
      ["Application/Managers/shop/PetManager.cs", "Http.API/Controllers/shop/PetController.cs"] := by
    decide +kernel
  have document : ((Api.load cats "cats.json").toOption.bind fun d =>
      (documentFiles library petsConfig d).toOption).map (·.map (·.path)) = some
        ["Http.API/Controllers/CatsController.cs"] := by
    decide +kernel
  obtain ⟨files, made, paths⟩ := Option.map_eq_some_iff.mp entity
  obtain ⟨files', made', paths'⟩ := Option.map_eq_some_iff.mp document
  obtain ⟨d, loaded, made'⟩ := Option.bind_eq_some_iff.mp made'
  rw [toOption_eq_some_iff] at made loaded made'
  obtain ⟨ofEntities, ofDocuments, emission⟩ := files_below petsConfig dirs
  have below : ∀ f ∈ files ++ files', IsBelow f.path := by
    intro f mem
    rcases List.mem_append.mp mem with mem | mem
    · exact (ofEntities library e files made).mpr (fun _ => stays) f mem
    · exact ofDocuments library cats "cats.json" d files' loaded made' f mem
  refine ⟨dirs, library, e, d, files, files', made, stays, loaded, made', ?_, below, ?_⟩
  · rw [List.map_append, paths, paths']
    rfl
  · exact emission .empty (files ++ files') "out" (by decide) below

/-- The name of a class leads out of the output directory, and a file is written there. -/
theorem files_escape :
    petsConfig.naming.StaysBelow ∧
      (∃ output, generateFiles (pets "../../../Pet") petsConfig = .ok output ∧
        ¬∀ f ∈ output.files, IsBelow f.path) ∧
      (pets "../../../Pet").isThere "PetManager.cs" = false ∧
      (generate (pets "../../../Pet") petsConfig).1.isFile "PetManager.cs" = true := by
  have paths : Output.paths? (generateFiles (pets "../../../Pet") petsConfig) = some [
      "Application/Managers/../../../PetManager.cs",
      "Http.API/Controllers/../../../PetController.cs"] := by decide +kernel
  obtain ⟨output, run, files⟩ := Output.exists_of_paths paths
  refine ⟨⟨by decide, by decide, by decide, by decide⟩, ⟨output, run, fun below => ?_⟩, by decide,
    by decide +kernel⟩
  have first : ∀ path ∈ output.files.map (·.path), IsBelow path := List.forall_mem_map.mpr below
  rw [files] at first
  exact absurd (first _ List.mem_cons_self) (by decide)

/-! ## Runs -/

/-- The documents of a run were loaded. -/
theorem Loader.exists_load {l : Loader} {t : FileTree} {paths : List String} {d : Api.Document}
    (mem : d ∈ (l.load t paths).1.documents) : ∃ source path, Api.load source path = .ok d := by
  rw [(Loader.takes_load l t paths).documents] at mem
  obtain ⟨⟨path, source⟩, -, found⟩ := List.mem_filterMap.mp mem
  cases source with
  | document value => exact ⟨value, path, toOption_eq_some_iff.mp found⟩
  | declarations | relational => cases found

/-- The files of a run stay below the output directory if all chosen entities do. -/
theorem generateFiles_below {t : FileTree} {output : Output} (dirs : config.naming.StaysBelow)
    (run : generateFiles t config = .ok output)
    (stays : config.SpellsNames → ∀ e ∈ (Loader.empty.load t config.entityPaths).1.entities,
      config.selects e.name → e.StaysBelow) : ∀ f ∈ output.files, IsBelow f.path := by
  have made := (paths_generateFiles run).subset
  intro f mem
  obtain ⟨p, p_mem, same⟩ := List.mem_map.mp (made (List.mem_map_of_mem mem))
  rw [← same]
  rcases List.mem_append.mp p_mem with p_mem | p_mem
  · obtain ⟨e, e_mem, p_mem⟩ := List.mem_flatMap.mp p_mem
    obtain ⟨loaded, chosen⟩ := List.mem_filter.mp e_mem
    exact (Product.isBelow_entityProducts_iff dirs).mpr (fun spells => stays spells e loaded chosen) p p_mem
  · obtain ⟨d, d_mem, p_mem⟩ := List.mem_flatMap.mp p_mem
    obtain ⟨source, path, loaded⟩ := Loader.exists_load d_mem
    exact Product.isBelow_documentProducts dirs loaded p p_mem

end Scaffold

/-
Where generated files lie. Different products of a run lie at different places, unless names are told
apart only by what file names drop: `generateFiles_apart`.
-/
import Mathlib.Data.List.Nodup
import Scaffold.Proofs.Generate.Products
import Scaffold.Proofs.Input.Accounts
import Scaffold.Proofs.Text.Case

namespace Scaffold

open Text

/-! ## Names of transfer objects -/

namespace DtoKind

/-- The last two characters of the label. -/
def marks : DtoKind → Char × Char
  | .add => ('d', 'd')
  | .update => ('t', 'e')
  | .detail => ('i', 'l')
  | .item => ('e', 'm')
  | .filter => ('e', 'r')

theorem marks_injective {a b : DtoKind} (same : a.marks.2 = b.marks.2) : a = b := by
  revert same
  cases a <;> cases b <;> decide

theorem isSmall_marks (kind : DtoKind) : IsSmall kind.marks.1 ∧ IsSmall kind.marks.2 := by
  cases kind <;> exact ⟨⟨by decide, by decide, by decide, by decide⟩,
    ⟨by decide, by decide, by decide, by decide⟩⟩

theorem label_eq (kind : DtoKind) :
    kind.label.toList = kind.label.toList.dropLast.dropLast ++ [kind.marks.1, kind.marks.2] := by
  cases kind <;> decide

/-- However the name of the entity is cut into words, the label is seen at the end. -/
theorem nameWords_typeName (kind : DtoKind) (entity : String) :
    ∃ front back, nameWords (kind.typeName entity) =
      front ++ [back ++ [kind.marks.1, kind.marks.2], ['D', 't', 'o']] := by
  have chars : (kind.typeName entity).toList =
      (entity.toList ++ kind.label.toList.dropLast.dropLast) ++
        kind.marks.1 :: kind.marks.2 :: 'D' :: ['t', 'o'] := by
    rw [typeName, String.toList_append, String.toList_append, kind.label_eq]
    simp
  have letters : ∀ c ∈ kind.marks.1 :: kind.marks.2 :: 'D' :: ['t', 'o'],
      isAlphanumeric c = true := List.all_eq_true.mp (by cases kind <;> decide)
  exact nameWords_append kind.isSmall_marks.1 kind.isSmall_marks.2 (by decide) (by decide) letters
    chars

end DtoKind

/-- What the file names of transfer objects end with. -/
def Target.dtoEnding : Target → String
  | .csharp => "Dto.cs"
  | .typescript => "-dto.ts"
  | .rust => "_dto.rs"

theorem Dto.fileName_eq (target : Target) (e : Entity) (kind : DtoKind) :
    ∃ front, (Dto.fileName target e kind).toList =
      front ++ kind.marks.2 :: target.dtoEnding.toList := by
  obtain ⟨front, back, words⟩ := kind.nameWords_typeName e.name
  have capital : capitalWord ['D', 't', 'o'] = ['D', 't', 'o'] := by decide
  have small : smallWord ['D', 't', 'o'] = ['d', 't', 'o'] := by decide
  cases target with
  | csharp =>
    obtain ⟨start, stem⟩ := pascalCase_append kind.isSmall_marks.2 words
    exact ⟨start, by
      simp [Dto.fileName, Target.fileStem, stem, capital, Target.extension, Target.dtoEnding]⟩
  | typescript =>
    obtain ⟨start, stem⟩ := separated_append kind.isSmall_marks.2 words '-'
    exact ⟨start, by
      simp [Dto.fileName, Target.fileStem, kebabCase, stem, small, Target.extension,
        Target.dtoEnding]⟩
  | rust =>
    obtain ⟨start, stem⟩ := separated_append kind.isSmall_marks.2 words '_'
    exact ⟨start, by
      simp [Dto.fileName, Target.fileStem, snakeCase, stem, small, Target.extension,
        Target.dtoEnding]⟩

/-- The file name tells the shape. -/
theorem Dto.kind_eq_of_fileName {target : Target} {e e' : Entity} {kind kind' : DtoKind}
    (same : Dto.fileName target e kind = Dto.fileName target e' kind') : kind = kind' := by
  obtain ⟨front, name⟩ := Dto.fileName_eq target e kind
  obtain ⟨front', name'⟩ := Dto.fileName_eq target e' kind'
  rw [same, name'] at name
  obtain ⟨-, tails⟩ := List.append_inj' name rfl
  exact DtoKind.marks_injective (List.cons.inj tails).1.symm

/-! ## File names -/

theorem slash_notMem_append {a b : String} (ha : '/' ∉ a.toList) (hb : '/' ∉ b.toList) :
    '/' ∉ (a ++ b).toList := by
  rw [String.toList_append, List.mem_append]
  exact fun mem => mem.elim ha hb

theorem Target.slash_notMem_fileStem (target : Target) (name : String) :
    '/' ∉ (target.fileStem name).toList := by
  cases target with
  | csharp => exact slash_notMem_pascalCase name
  | typescript => exact slash_notMem_kebabCase name
  | rust => exact slash_notMem_snakeCase name

namespace Product

/-- Files of one role have names with one ending. -/
inductive Role where
  | dto
  | dtoIndex
  | manager
  | controller
  | service
  | model
  | modelIndex
deriving DecidableEq

def role : Product → Role
  | dto _ _ => .dto
  | dtoIndex _ => .dtoIndex
  | manager _ => .manager
  | controller _ => .controller
  | tagController _ => .controller
  | service _ => .service
  | model _ => .model
  | modelIndex => .modelIndex

def ending (dtoTarget clientTarget : Target) : Role → String
  | .dto => dtoTarget.dtoEnding
  | .dtoIndex => "mod.rs"
  | .manager => "Manager.cs"
  | .controller => "Controller.cs"
  | .service => if clientTarget = .csharp then "Service.cs" else ".service.ts"
  | .model => if clientTarget = .csharp then ".cs" else ".model.ts"
  | .modelIndex => "index.ts"

variable {config : Config}

theorem fileName_eq (config : Config) (p : Product) :
    ∃ front, (p.fileName config).toList =
      front ++ (ending config.dtoTarget config.clientTarget p.role).toList := by
  cases p with
  | dto e kind =>
    obtain ⟨front, name⟩ := Dto.fileName_eq config.dtoTarget e kind
    exact ⟨front ++ [kind.marks.2], by simp [fileName, name, role, ending]⟩
  | dtoIndex e => exact ⟨[], rfl⟩
  | manager e => exact ⟨e.name.toList, by simp [fileName, Manager.fileName, managerName, role, ending]⟩
  | controller e =>
    exact ⟨e.name.toList, by simp [fileName, Controller.fileName, controllerName, role, ending]⟩
  | tagController tag =>
    exact ⟨(pascalCase tag).toList, by
      simp [fileName, Controller.fileName, controllerName, role, ending]⟩
  | service tag =>
    cases target : config.clientTarget with
    | csharp =>
      exact ⟨(pascalCase tag).toList, by
        simp [fileName, target, Client.serviceFileName, Client.serviceName, role, ending]⟩
    | typescript =>
      exact ⟨(kebabCase tag).toList, by
        simp [fileName, target, Client.serviceFileName, Target.dirName, role, ending]⟩
    | rust =>
      exact ⟨(kebabCase tag).toList, by
        simp [fileName, target, Client.serviceFileName, Target.dirName, role, ending]⟩
  | model name =>
    cases target : config.clientTarget with
    | csharp => exact ⟨name.toList, by simp [fileName, target, Client.modelFileName, role, ending]⟩
    | typescript =>
      exact ⟨(kebabCase name).toList, by
        simp [fileName, target, Client.modelFileName, Target.fileStem, role, ending]⟩
    | rust =>
      exact ⟨(kebabCase name).toList, by
        simp [fileName, target, Client.modelFileName, Target.fileStem, role, ending]⟩
  | modelIndex => exact ⟨[], rfl⟩

/-- Whether files of the role are in C#, given the language of the transfer objects and that the
client is in C#. -/
def Role.isCSharp (dtoTarget : Target) : Role → Bool
  | .dto => dtoTarget = .csharp
  | .dtoIndex => false
  | .modelIndex => false
  | .manager | .controller | .service | .model => true

/-- The ending tells the role, but a model in C# can have the name of any other file in C#. -/
theorem role_eq_of_ending {dtoTarget clientTarget : Target} {a b : Role}
    (ends : (ending dtoTarget clientTarget a).toList <:+ (ending dtoTarget clientTarget b).toList) :
    a = b ∨ clientTarget = .csharp ∧ a = .model ∧ b.isCSharp dtoTarget = true := by
  revert ends
  cases dtoTarget <;> cases clientTarget <;> cases a <;> cases b <;> decide

theorem role_eq_of_fileName {p q : Product} (same : p.fileName config = q.fileName config) :
    p.role = q.role ∨ config.clientTarget = .csharp ∧
      (p.role = .model ∧ q.role.isCSharp config.dtoTarget = true ∨
        q.role = .model ∧ p.role.isCSharp config.dtoTarget = true) := by
  obtain ⟨front, name⟩ := p.fileName_eq config
  obtain ⟨front', name'⟩ := q.fileName_eq config
  rw [same] at name
  rcases List.suffix_or_suffix_of_suffix ⟨front, name.symm⟩ ⟨front', name'.symm⟩ with ends | ends
  · rcases role_eq_of_ending ends with eq | ⟨target, model, other⟩
    · exact .inl eq
    · exact .inr ⟨target, .inl ⟨model, other⟩⟩
  · rcases role_eq_of_ending ends with eq | ⟨target, model, other⟩
    · exact .inl eq.symm
    · exact .inr ⟨target, .inr ⟨model, other⟩⟩

theorem eq_model {p : Product} (h : p.role = .model) : ∃ name, p = model name := by
  cases p with
  | model name => exact ⟨name, rfl⟩
  | dto | dtoIndex | manager | controller | tagController | service | modelIndex => cases h

theorem ending_length (dtoTarget clientTarget : Target) (role : Role) :
    3 ≤ (ending dtoTarget clientTarget role).toList.length := by
  cases dtoTarget <;> cases clientTarget <;> cases role <;> decide

/-- The text that a file name has as it was given. -/
def spelled? (config : Config) : Product → Option String
  | manager e | controller e => some e.name
  | model name => if config.clientTarget = .csharp then some name else none
  | dto _ _ | dtoIndex _ | tagController _ | service _ | modelIndex => none

/-- Only what is not put in an identifier style can have a slash. -/
theorem slash_notMem_fileName {p : Product}
    (whole : ∀ name, p.spelled? config = some name → '/' ∉ name.toList) :
    '/' ∉ (p.fileName config).toList := by
  cases p with
  | dto e kind =>
    have extension : '/' ∉ config.dtoTarget.extension.toList := by
      cases config.dtoTarget <;> decide
    exact slash_notMem_append
      (slash_notMem_append (config.dtoTarget.slash_notMem_fileStem _) (by decide)) extension
  | dtoIndex e => exact (by decide : '/' ∉ "mod.rs".toList)
  | manager e =>
    rw [fileName, Manager.fileName, managerName]
    exact slash_notMem_append (slash_notMem_append (whole e.name rfl) (by decide)) (by decide)
  | controller e =>
    rw [fileName, Controller.fileName, controllerName]
    exact slash_notMem_append (slash_notMem_append (whole e.name rfl) (by decide)) (by decide)
  | tagController tag =>
    rw [fileName, Controller.fileName, controllerName]
    exact slash_notMem_append (slash_notMem_append (slash_notMem_pascalCase tag) (by decide))
      (by decide)
  | service tag =>
    have service : '/' ∉ (Client.serviceFileName config.clientTarget tag).toList := by
      cases config.clientTarget with
      | csharp =>
        rw [Client.serviceFileName, Client.serviceName]
        exact slash_notMem_append (slash_notMem_append (slash_notMem_pascalCase tag) (by decide))
          (by decide)
      | typescript => exact slash_notMem_append (slash_notMem_kebabCase tag) (by decide)
      | rust => exact slash_notMem_append (slash_notMem_kebabCase tag) (by decide)
    exact service
  | model name =>
    have model : '/' ∉ (Client.modelFileName config.clientTarget name).toList := by
      cases target : config.clientTarget with
      | csharp => exact slash_notMem_append (whole name (if_pos target)) (by decide)
      | typescript => exact slash_notMem_append (slash_notMem_kebabCase name) (by decide)
      | rust => exact slash_notMem_append (slash_notMem_kebabCase name) (by decide)
    exact model
  | modelIndex => exact (by decide : '/' ∉ "index.ts".toList)

/-- A file name is one part of a path, unless it has a slash. -/
theorem isPlain_fileName {p : Product} (whole : '/' ∉ (p.fileName config).toList) :
    Path.IsPlain (p.fileName config) := by
  obtain ⟨front, name⟩ := p.fileName_eq config
  have long := ending_length config.dtoTarget config.clientTarget p.role
  have length := congrArg List.length name
  rw [List.length_append] at length
  refine ⟨fun empty => ?_, fun dot => ?_, whole⟩
  · rw [empty] at length
    simp only [String.toList_empty, List.length_nil] at length
    omega
  · rw [dot] at length
    have one : ".".toList.length = 1 := by decide
    omega

end Product

/-! ## What was loaded -/

/-- The tags of some documents. -/
def Api.Document.allTags (documents : List Api.Document) : List String :=
  documents.flatMap (·.tags)

/-- The names of the types of some documents. -/
def Api.Document.allTypeNames (documents : List Api.Document) : List String :=
  documents.flatMap fun d => d.types.values.map (·.name)

/-- The product is made for one of the entities, tags and types, and wanted. -/
def Product.MadeOf (config : Config) (entities : List Entity) (documents : List Api.Document) :
    Product → Prop
  | dto e _ => e ∈ entities ∧ config.wants .dto
  | dtoIndex e => e ∈ entities ∧ config.wants .dto ∧ config.dtoTarget = .rust
  | manager e => e ∈ entities
  | controller e => e ∈ entities ∧ config.wants .controller
  | tagController tag => tag ∈ Api.Document.allTags documents ∧ config.wants .controller
  | service tag => tag ∈ Api.Document.allTags documents ∧ config.wants .client
  | model name => name ∈ Api.Document.allTypeNames documents ∧ config.wants .client
  | modelIndex => config.wants .client ∧ config.clientTarget = .typescript

variable {config : Config} {entities : List Entity} {documents : List Api.Document}

namespace Product

theorem of_mem_ofEntity {e : Entity} {a : Artifact} {p : Product}
    (mem : p ∈ ofEntity config e a) :
    (a = .dto ∧ ((∃ kind, p = dto e kind) ∨ p = dtoIndex e ∧ config.dtoTarget = .rust)) ∨
      (a = .manager ∧ p = manager e) ∨ (a = .controller ∧ p = controller e) := by
  cases a with
  | dto =>
    rcases List.mem_append.mp mem with mem | mem
    · obtain ⟨kind, -, rfl⟩ := List.mem_map.mp mem
      exact .inl ⟨rfl, .inl ⟨kind, rfl⟩⟩
    · split at mem
      · next rust => exact .inl ⟨rfl, .inr ⟨List.mem_singleton.mp mem, rust⟩⟩
      · cases mem
  | manager => exact .inr (.inl ⟨rfl, List.mem_singleton.mp mem⟩)
  | controller => exact .inr (.inr ⟨rfl, List.mem_singleton.mp mem⟩)
  | client => cases mem

theorem of_mem_ofDocument {d : Api.Document} {a : Artifact} {p : Product}
    (mem : p ∈ ofDocument config d a) :
    (a = .controller ∧ ∃ tag ∈ d.tags, p = tagController tag) ∨
      a = .client ∧ ((∃ tag ∈ d.tags, p = service tag) ∨
        (∃ name ∈ d.types.values.map (·.name), p = model name) ∨
        p = modelIndex ∧ config.clientTarget = .typescript ∧ !d.types.entries.isEmpty) := by
  cases a with
  | controller =>
    obtain ⟨tag, tag_mem, rfl⟩ := List.mem_map.mp mem
    exact .inl ⟨rfl, tag, tag_mem, rfl⟩
  | client =>
    refine .inr ⟨rfl, ?_⟩
    rcases List.mem_append.mp mem with mem | mem
    · rcases List.mem_append.mp mem with mem | mem
      · obtain ⟨tag, tag_mem, rfl⟩ := List.mem_map.mp mem
        exact .inl ⟨tag, tag_mem, rfl⟩
      · obtain ⟨definition, definition_mem, rfl⟩ := List.mem_map.mp mem
        exact .inr (.inl ⟨definition.name, List.mem_map_of_mem definition_mem, rfl⟩)
    · split at mem
      · next indexed => exact .inr (.inr ⟨List.mem_singleton.mp mem, indexed⟩)
      · cases mem
  | dto => cases mem
  | manager => cases mem

theorem MadeOf.of_mem {p : Product} (mem : p ∈ config.allProducts entities documents) :
    p.MadeOf config entities documents := by
  rcases List.mem_append.mp mem with mem | mem
  · obtain ⟨e, e_mem, mem⟩ := List.mem_flatMap.mp mem
    obtain ⟨a, wanted, mem⟩ := List.mem_flatMap.mp mem
    have wanted := (List.mem_filter.mp wanted).2
    rcases of_mem_ofEntity mem with
      ⟨rfl, ⟨kind, rfl⟩ | ⟨rfl, rust⟩⟩ | ⟨rfl, rfl⟩ | ⟨rfl, rfl⟩
    · exact ⟨e_mem, wanted⟩
    · exact ⟨e_mem, wanted, rust⟩
    · exact e_mem
    · exact ⟨e_mem, wanted⟩
  · obtain ⟨d, d_mem, mem⟩ := List.mem_flatMap.mp mem
    obtain ⟨a, wanted, mem⟩ := List.mem_flatMap.mp mem
    have wanted := (List.mem_filter.mp wanted).2
    rcases of_mem_ofDocument mem with
      ⟨rfl, tag, tag_mem, rfl⟩ |
      ⟨rfl, ⟨tag, tag_mem, rfl⟩ | ⟨name, name_mem, rfl⟩ | ⟨rfl, target, -⟩⟩
    · exact ⟨List.mem_flatMap_of_mem d_mem tag_mem, wanted⟩
    · exact ⟨List.mem_flatMap_of_mem d_mem tag_mem, wanted⟩
    · exact ⟨List.mem_flatMap_of_mem d_mem name_mem, wanted⟩
    · exact ⟨wanted, target⟩

end Product

/-- What was loaded is told apart by more than what file names drop. -/
structure Apart (config : Config) (entities : List Entity) (documents : List Api.Document) : Prop where
  /-- Names of entities are parts of file names as they stand. -/
  whole : ∀ e ∈ entities, '/' ∉ e.name.toList
  /-- In C# each entity has a directory of its name, in other languages case and punctuation are
  dropped. -/
  directories : config.wants .dto → config.dtoTarget ≠ .csharp →
    (entities.map fun e => Path.components (Dto.directory config.dtoTarget config.naming e)).Nodup
  controllers : config.wants .controller →
    ((Api.Document.allTags documents).map pascalCase).Nodup
  /-- Controllers of entities and of tags can share a directory. -/
  subjects : config.wants .controller → ∀ e ∈ entities, ∀ tag ∈ Api.Document.allTags documents,
    e.name = pascalCase tag →
      Path.components (Controller.directory config.naming e) ≠ Path.components config.naming.controllerDir
  services : config.wants .client →
    ((Api.Document.allTags documents).map (Client.serviceFileName config.clientTarget)).Nodup
  models : config.wants .client →
    ((Api.Document.allTypeNames documents).map (Client.modelFileName config.clientTarget)).Nodup
  /-- All documents share one index of models. -/
  indexes : config.wants .client → config.clientTarget = .typescript →
    (documents.filter fun d => !d.types.entries.isEmpty).length ≤ 1
  /-- A model in C# has the name of its type, which can be that of a manager or a controller. -/
  outside : config.wants .client → config.clientTarget = .csharp →
    (∀ name ∈ Api.Document.allTypeNames documents, '/' ∉ name.toList) ∧
    (∀ e ∈ entities,
      Path.components (Manager.directory config.naming e) ≠
          Path.components (Client.modelsDir .csharp config.naming) ∧
        Path.components (Controller.directory config.naming e) ≠
          Path.components (Client.modelsDir .csharp config.naming)) ∧
    Path.components config.naming.controllerDir ≠ Path.components (Client.modelsDir .csharp config.naming)

/-! ## Places -/

/-- In C# the directory of transfer objects has the name of the entity. -/
theorem Dto.components_directory (naming : Naming) {e : Entity} (whole : '/' ∉ e.name.toList) :
    ∃ dirs, Path.components (Dto.directory .csharp naming e) = dirs ++ [e.name ++ "Dtos"] := by
  have long : 4 ≤ (e.name ++ "Dtos").toList.length := by
    rw [String.toList_append, List.length_append]
    exact Nat.le_add_left 4 _
  have plain : Path.IsPlain (e.name ++ "Dtos") := by
    refine ⟨fun empty => ?_, fun dot => ?_, slash_notMem_append whole (by decide)⟩
    · rw [empty] at long
      revert long
      decide
    · rw [dot] at long
      revert long
      decide
  exact ⟨_, Path.components_join _ plain⟩

theorem Manager.name_eq {e e' : Entity} (same : Manager.fileName e = Manager.fileName e') :
    e.name = e'.name :=
  (String.append_left_inj _).mp ((String.append_left_inj _).mp same)

theorem Controller.name_eq {a b : String} (same : Controller.fileName a = Controller.fileName b) :
    a = b :=
  (String.append_left_inj _).mp ((String.append_left_inj _).mp same)

namespace Apart

variable (apart : Apart config entities documents)

include apart

theorem isPlain {p : Product} (made : p.MadeOf config entities documents) :
    Path.IsPlain (p.fileName config) := by
  refine Product.isPlain_fileName (Product.slash_notMem_fileName fun name spelled => ?_)
  cases p with
  | manager e =>
    cases spelled
    exact apart.whole e made
  | controller e =>
    cases spelled
    exact apart.whole e made.1
  | model name =>
    rw [Product.spelled?] at spelled
    split at spelled
    · next target =>
      cases spelled
      exact (apart.outside made.2 target).1 name made.1
    · cases spelled
  | dto | dtoIndex | tagController | service | modelIndex => cases spelled

/-- In C# no other file lies in the directory of the models. -/
theorem outside_models {p : Product} (made : p.MadeOf config entities documents)
    (wanted : config.wants .client) (target : config.clientTarget = .csharp)
    (csharp : p.role.isCSharp config.dtoTarget = true) (other : p.role ≠ .model) :
    Path.components (p.directory config) ≠
      Path.components (Client.modelsDir .csharp config.naming) := by
  obtain ⟨-, ofEntities, ofTags⟩ := apart.outside wanted target
  have models : Path.components (Client.modelsDir .csharp config.naming) =
      Path.components config.naming.clientDir ++ ["Models"] :=
    Path.components_join _ ⟨by decide, by decide, by decide⟩
  cases p with
  | dto e kind =>
    have dtoTarget : config.dtoTarget = .csharp := of_decide_eq_true csharp
    obtain ⟨dirs, directory⟩ := Dto.components_directory config.naming (apart.whole e made.1)
    rw [Product.directory, dtoTarget, directory, models]
    intro same
    have names := List.singleton_injective (List.append_inj' same rfl).2
    have ends : "Dtos".toList <:+ "Models".toList := ⟨e.name.toList, by rw [← names]; simp⟩
    revert ends
    decide
  | dtoIndex e => cases csharp
  | manager e => exact (ofEntities e made).1
  | controller e => exact (ofEntities e made.1).2
  | tagController tag => exact ofTags
  | service tag =>
    have services : Path.components (Client.servicesDir .csharp config.naming) =
        Path.components config.naming.clientDir ++ ["Services"] :=
      Path.components_join _ ⟨by decide, by decide, by decide⟩
    rw [Product.directory, target, services, models]
    intro same
    have names := List.singleton_injective (List.append_inj' same rfl).2
    revert names
    decide
  | model name => exact absurd rfl other
  | modelIndex => cases csharp

/-- What lies at one place with one name plays one role. -/
theorem role_eq {p q : Product} (made : p.MadeOf config entities documents)
    (made' : q.MadeOf config entities documents)
    (directories : Path.components (p.directory config) = Path.components (q.directory config))
    (names : p.fileName config = q.fileName config) : p.role = q.role := by
  have directory (name : String) (target : config.clientTarget = .csharp) :
      (Product.model name).directory config = Client.modelsDir .csharp config.naming := by
    rw [Product.directory, target]
  rcases Product.role_eq_of_fileName names with eq | ⟨target, ⟨model, csharp⟩ | ⟨model, csharp⟩⟩
  · exact eq
  · obtain ⟨name, rfl⟩ := Product.eq_model model
    by_contra other
    refine apart.outside_models made' made.2 target csharp (Ne.symm other) ?_
    rw [← directories, directory name target]
  · obtain ⟨name, rfl⟩ := Product.eq_model model
    by_contra other
    refine apart.outside_models made made'.2 target csharp other ?_
    rw [directories, directory name target]

/-- Entities with one directory of transfer objects are one. -/
theorem eq_of_directory (unique : (entities.map (·.name)).Nodup) (wanted : config.wants .dto)
    {e e' : Entity} (mem : e ∈ entities) (mem' : e' ∈ entities)
    (same : Path.components (Dto.directory config.dtoTarget config.naming e) =
      Path.components (Dto.directory config.dtoTarget config.naming e')) : e = e' := by
  by_cases target : config.dtoTarget = .csharp
  · obtain ⟨dirs, directory⟩ := Dto.components_directory config.naming (apart.whole e mem)
    obtain ⟨dirs', directory'⟩ := Dto.components_directory config.naming (apart.whole e' mem')
    rw [target, directory, directory'] at same
    have names := List.singleton_injective (List.append_inj' same rfl).2
    exact List.inj_on_of_nodup_map unique mem mem' (String.append_left_inj _ |>.mp names)
  · exact List.inj_on_of_nodup_map (apart.directories wanted target) mem mem' same

/-- Different products lie at different places. -/
theorem eq_of_place (unique : (entities.map (·.name)).Nodup) {p q : Product}
    (made : p.MadeOf config entities documents) (made' : q.MadeOf config entities documents)
    (same : Path.components (p.path config) = Path.components (q.path config)) : p = q := by
  obtain ⟨directories, names⟩ := Path.join_inj (apart.isPlain made) (apart.isPlain made') same
  have role := apart.role_eq made made' directories names
  have byName {e e' : Entity} (mem : e ∈ entities) (mem' : e' ∈ entities) (eq : e.name = e'.name) :
      e = e' := List.inj_on_of_nodup_map unique mem mem' eq
  cases p with
  | dto e kind =>
    cases q with
    | dto e' kind' =>
      rw [apart.eq_of_directory unique made.2 made.1 made'.1 directories,
        Dto.kind_eq_of_fileName names]
    | dtoIndex | manager | controller | tagController | service | model | modelIndex => cases role
  | dtoIndex e =>
    cases q with
    | dtoIndex e' =>
      have directories : Path.components (Dto.directory config.dtoTarget config.naming e) =
          Path.components (Dto.directory config.dtoTarget config.naming e') := by
        rw [made.2.2]
        exact directories
      rw [apart.eq_of_directory unique made.2.1 made.1 made'.1 directories]
    | dto | manager | controller | tagController | service | model | modelIndex => cases role
  | manager e =>
    cases q with
    | manager e' => rw [byName made made' (Manager.name_eq names)]
    | dto | dtoIndex | controller | tagController | service | model | modelIndex => cases role
  | controller e =>
    cases q with
    | controller e' => rw [byName made.1 made'.1 (Controller.name_eq names)]
    | tagController tag =>
      exact absurd directories
        (apart.subjects made.2 e made.1 tag made'.1 (Controller.name_eq names))
    | dto | dtoIndex | manager | service | model | modelIndex => cases role
  | tagController tag =>
    cases q with
    | controller e =>
      exact absurd directories.symm
        (apart.subjects made.2 e made'.1 tag made.1 (Controller.name_eq names).symm)
    | tagController tag' =>
      rw [List.inj_on_of_nodup_map (apart.controllers made.2) made.1 made'.1
        (Controller.name_eq names)]
    | dto | dtoIndex | manager | service | model | modelIndex => cases role
  | service tag =>
    cases q with
    | service tag' => rw [List.inj_on_of_nodup_map (apart.services made.2) made.1 made'.1 names]
    | dto | dtoIndex | manager | controller | tagController | model | modelIndex => cases role
  | model name =>
    cases q with
    | model name' => rw [List.inj_on_of_nodup_map (apart.models made.2) made.1 made'.1 names]
    | dto | dtoIndex | manager | controller | tagController | service | modelIndex => cases role
  | modelIndex =>
    cases q with
    | modelIndex => rfl
    | dto | dtoIndex | manager | controller | tagController | service | model => cases role

end Apart

/-! ## No product is made twice -/

theorem pairwise_imp {α : Type} {l : List α} {c : Prop} {R : α → α → Prop} (h : c → l.Pairwise R) :
    l.Pairwise fun a b => c → R a b := by
  by_cases holds : c
  · exact (h holds).imp fun r _ => r
  · exact List.pairwise_of_forall fun _ _ needed => absurd needed holds

namespace Product

def artifact : Product → Artifact
  | dto _ _ | dtoIndex _ => .dto
  | manager _ => .manager
  | controller _ | tagController _ => .controller
  | service _ | model _ | modelIndex => .client

/-- The entity that the product is made for. -/
def entity? : Product → Option Entity
  | dto e _ | dtoIndex e | manager e | controller e => some e
  | tagController _ | service _ | model _ | modelIndex => none

theorem artifact_ofEntity {e : Entity} {a : Artifact} {p : Product}
    (mem : p ∈ ofEntity config e a) : p.artifact = a ∧ p.entity? = some e := by
  rcases of_mem_ofEntity mem with
    ⟨rfl, ⟨kind, rfl⟩ | ⟨rfl, -⟩⟩ | ⟨rfl, rfl⟩ | ⟨rfl, rfl⟩ <;> exact ⟨rfl, rfl⟩

theorem artifact_ofDocument {d : Api.Document} {a : Artifact} {p : Product}
    (mem : p ∈ ofDocument config d a) : p.artifact = a ∧ p.entity? = none := by
  rcases of_mem_ofDocument mem with
    ⟨rfl, tag, -, rfl⟩ | ⟨rfl, ⟨tag, -, rfl⟩ | ⟨name, -, rfl⟩ | ⟨rfl, -⟩⟩ <;> exact ⟨rfl, rfl⟩

theorem entity_of_mem_products {o : Option Entity} {ofKind : Artifact → List Product}
    (subject : ∀ a, ∀ p ∈ ofKind a, p.artifact = a ∧ p.entity? = o) {p : Product}
    (mem : p ∈ config.products ofKind) : p.entity? = o := by
  obtain ⟨a, -, mem⟩ := List.mem_flatMap.mp mem
  exact (subject a p mem).2

theorem nodup_products {ofKind : Artifact → List Product}
    (artifacts : ∀ a, ∀ p ∈ ofKind a, p.artifact = a)
    (each : ∀ a, config.wants a → (ofKind a).Nodup) : (config.products ofKind).Nodup := by
  have all : Artifact.all.Nodup := by decide
  refine List.nodup_flatMap.mpr ⟨fun a wanted => each a (List.mem_filter.mp wanted).2, ?_⟩
  refine (all.filter config.wants).imp fun {a b} different p mem mem' => different ?_
  rw [← artifacts a p mem, artifacts b p mem']

theorem nodup_ofEntity (e : Entity) (a : Artifact) : (ofEntity config e a).Nodup := by
  cases a with
  | dto =>
    have kinds : DtoKind.all.Nodup := by decide
    rw [ofEntity, List.nodup_append]
    refine ⟨kinds.map fun a b same => (Product.dto.inj same).2, ?_, fun p mem q index => ?_⟩
    · split
      · exact List.nodup_singleton _
      · exact List.nodup_nil
    · obtain ⟨kind, -, rfl⟩ := List.mem_map.mp mem
      split at index
      · rw [List.mem_singleton.mp index]
        exact Product.noConfusion
      · cases index
  | manager => exact List.nodup_singleton _
  | controller => exact List.nodup_singleton _
  | client => exact List.nodup_nil

theorem nodup_ofDocument_controller {d : Api.Document} (tags : d.tags.Nodup) :
    (ofDocument config d .controller).Nodup :=
  tags.map fun _ _ same => Product.tagController.inj same

theorem nodup_ofDocument_client {d : Api.Document} (tags : d.tags.Nodup)
    (names : (d.types.values.map (·.name)).Nodup) : (ofDocument config d .client).Nodup := by
  have services : (d.tags.map service).Nodup := tags.map fun _ _ same => Product.service.inj same
  have models : (d.types.values.map fun definition => model definition.name).Nodup := by
    have mapped := names.map fun (_ _ : String) same => Product.model.inj same
    rwa [List.map_map] at mapped
  rw [ofDocument, List.nodup_append, List.nodup_append]
  refine ⟨⟨services, models, fun p mem q mem' => ?_⟩, ?_, fun p mem q index => ?_⟩
  · obtain ⟨tag, -, rfl⟩ := List.mem_map.mp mem
    obtain ⟨definition, -, rfl⟩ := List.mem_map.mp mem'
    exact Product.noConfusion
  · split
    · exact List.nodup_singleton _
    · exact List.nodup_nil
  · split at index
    · rw [List.mem_singleton.mp index]
      rcases List.mem_append.mp mem with mem | mem
      · obtain ⟨tag, -, rfl⟩ := List.mem_map.mp mem
        exact Product.noConfusion
      · obtain ⟨definition, -, rfl⟩ := List.mem_map.mp mem
        exact Product.noConfusion
    · cases index

end Product

namespace Apart

variable (apart : Apart config entities documents)

include apart

theorem nodup_allTags (wanted : config.wants .controller ∨ config.wants .client) :
    (Api.Document.allTags documents).Nodup :=
  wanted.elim (fun wanted => (apart.controllers wanted).of_map)
    fun wanted => (apart.services wanted).of_map

theorem nodup_ofDocument {d : Api.Document} (mem : d ∈ documents) (a : Artifact)
    (wanted : config.wants a) : (Product.ofDocument config d a).Nodup := by
  have tags (wanted : config.wants .controller ∨ config.wants .client) : d.tags.Nodup :=
    (List.nodup_flatMap.mp (apart.nodup_allTags wanted)).1 d mem
  cases a with
  | controller => exact Product.nodup_ofDocument_controller (tags (.inl wanted))
  | client =>
    exact Product.nodup_ofDocument_client (tags (.inr wanted))
      ((List.nodup_flatMap.mp (apart.models wanted).of_map).1 d mem)
  | dto => exact List.nodup_nil
  | manager => exact List.nodup_nil

/-- Only one document has an index. -/
theorem pairwise_indexes (wanted : config.wants .client) (target : config.clientTarget = .typescript) :
    documents.Pairwise fun d d' => !d.types.entries.isEmpty → !d'.types.entries.isEmpty → False := by
  refine List.pairwise_filter.mp ?_
  have few := apart.indexes wanted target
  generalize documents.filter (fun d => !d.types.entries.isEmpty) = indexed at few
  match indexed, few with
  | [], _ => exact .nil
  | [d], _ => exact List.pairwise_singleton _ d

/-- Two documents have no product in common. -/
theorem disjoint_documents : documents.Pairwise fun d d' =>
    List.Disjoint (config.products (Product.ofDocument config d))
      (config.products (Product.ofDocument config d')) := by
  have tags := pairwise_imp fun wanted => (List.nodup_flatMap.mp (apart.nodup_allTags wanted)).2
  have names := pairwise_imp fun wanted =>
    (List.nodup_flatMap.mp (apart.models wanted).of_map).2
  have indexes := pairwise_imp fun wanted => pairwise_imp (apart.pairwise_indexes wanted)
  refine ((tags.and names).and indexes).imp fun {d d'} ⟨⟨tags, names⟩, indexes⟩ p mem mem' => ?_
  obtain ⟨a, wanted, mem⟩ := List.mem_flatMap.mp mem
  obtain ⟨a', -, mem'⟩ := List.mem_flatMap.mp mem'
  have wanted := (List.mem_filter.mp wanted).2
  rcases Product.of_mem_ofDocument mem with
    ⟨rfl, tag, tag_mem, rfl⟩ |
    ⟨rfl, ⟨tag, tag_mem, rfl⟩ | ⟨name, name_mem, rfl⟩ | ⟨rfl, target, indexed⟩⟩ <;>
  rcases Product.of_mem_ofDocument mem' with
    ⟨-, tag', tag_mem', same⟩ |
    ⟨-, ⟨tag', tag_mem', same⟩ | ⟨name', name_mem', same⟩ | ⟨same, -, indexed'⟩⟩ <;>
  cases same
  · exact tags (.inl wanted) tag_mem tag_mem'
  · exact tags (.inr wanted) tag_mem tag_mem'
  · exact names wanted name_mem name_mem'
  · exact indexes wanted target indexed indexed'

theorem nodup_allProducts (unique : (entities.map (·.name)).Nodup) :
    (config.allProducts entities documents).Nodup := by
  rw [Config.allProducts, List.nodup_append, List.nodup_flatMap, List.nodup_flatMap]
  refine ⟨⟨fun e _ => ?_, ?_⟩, ⟨fun d mem => ?_, apart.disjoint_documents⟩, ?_⟩
  · exact Product.nodup_products (fun a p mem => (Product.artifact_ofEntity mem).1)
      fun a _ => Product.nodup_ofEntity e a
  · refine unique.of_map.imp fun {e e'} different p mem mem' => different ?_
    have first := Product.entity_of_mem_products (fun a p => Product.artifact_ofEntity) mem
    have second := Product.entity_of_mem_products (fun a p => Product.artifact_ofEntity) mem'
    exact Option.some.inj (first.symm.trans second)
  · exact Product.nodup_products (fun a p mem => (Product.artifact_ofDocument mem).1)
      fun a wanted => apart.nodup_ofDocument mem a wanted
  · intro p mem q mem'
    rintro rfl
    obtain ⟨e, -, mem⟩ := List.mem_flatMap.mp mem
    obtain ⟨d, -, mem'⟩ := List.mem_flatMap.mp mem'
    have first := Product.entity_of_mem_products (fun a p => Product.artifact_ofEntity) mem
    have second := Product.entity_of_mem_products (fun a p => Product.artifact_ofDocument) mem'
    cases first.symm.trans second

end Apart

/-! ## Runs -/

/-- The files of a run lie at different places, however their paths are written, if what was loaded
is told apart by more than what file names drop. -/
theorem generateFiles_apart (t : FileTree) (config : Config) (output : Output)
    (run : generateFiles t config = .ok output)
    (apart : Apart config
      ((Loader.empty.load t config.entityPaths).1.entities.filter fun e => config.selects e.name)
      (Loader.empty.load t config.entityPaths).1.documents) :
    (output.files.map fun f => Path.components f.path).Nodup := by
  have loaded := Loader.unique_load .empty t config.entityPaths
  have sub := (paths_generateFiles run).map Path.components
  generalize (Loader.empty.load t config.entityPaths).1 = l at loaded apart sub
  have unique := loaded.sublist ((l.entities.filter_sublist (p := fun e => config.selects e.name)).map _)
  rw [List.map_map, List.map_map] at sub
  have places := (apart.nodup_allProducts unique).map_on fun p mem q mem' same =>
    apart.eq_of_place unique (.of_mem mem) (.of_mem mem') same
  exact places.sublist sub

/-- An entity, and an interface whose two operations have a tag each. Templates are empty. -/
def zoo (first second : String) : FileTree where
  nodes := [
    (["pet.json"], .file (some "\x7b\"name\":\"Pet\"\x7d")),
    (["zoo.json"], .file (some (
      "\x7b\"openapi\":\"\",\"paths\":\x7b\"/\":\x7b\"get\":\x7b\"tags\":[\"" ++ first ++
      "\"]\x7d,\"put\":\x7b\"tags\":[\"" ++ second ++ "\"]\x7d\x7d\x7d\x7d"))),
    (["t"], .directory), (["t", "controller.cs.j2"], .file (some "")),
    (["t", "api_controller.cs.j2"], .file (some ""))]
  locked := []

def zooConfig : Config where
  entityPaths := ["pet.json", "zoo.json"]
  artifacts := [.controller]
  naming := { rootNamespace := some "Zoo" }
  templatesDir := some "t"

/-- The paths of what is generated, if a run succeeds. -/
def Output.paths? (result : Except Fault Output) : Option (List String) :=
  result.toOption.map fun output => output.files.map (·.path)

theorem Output.exists_of_paths {result : Except Fault Output} {paths : List String}
    (h : Output.paths? result = some paths) :
    ∃ output, result = .ok output ∧ output.files.map (·.path) = paths := by
  cases result with
  | error fault => cases h
  | ok output => exact ⟨output, rfl, Option.some.inj h⟩

theorem generateFiles_apart_zoo :
    Output.paths? (generateFiles (zoo "a" "b") zooConfig) = some [
      "Http.API/Controllers/PetController.cs", "Http.API/Controllers/AController.cs",
      "Http.API/Controllers/BController.cs"] ∧
    ∃ output, generateFiles (zoo "a" "b") zooConfig = .ok output ∧
      (output.files.map fun f => Path.components f.path).Nodup := by
  have paths : Output.paths? (generateFiles (zoo "a" "b") zooConfig) = some [
      "Http.API/Controllers/PetController.cs", "Http.API/Controllers/AController.cs",
      "Http.API/Controllers/BController.cs"] := by decide +kernel
  have loaded : (Loader.empty.load (zoo "a" "b") zooConfig.entityPaths).1.entities.map (·.name) =
      ["Pet"] ∧ Api.Document.allTags
        (Loader.empty.load (zoo "a" "b") zooConfig.entityPaths).1.documents = ["A", "B"] := by
    decide +kernel
  obtain ⟨entities, tags⟩ := loaded
  have pet {e : Entity} (mem : e ∈ (Loader.empty.load (zoo "a" "b")
      zooConfig.entityPaths).1.entities.filter fun e => zooConfig.selects e.name) : e.name = "Pet" := by
    have name := List.mem_map_of_mem (f := (·.name)) (List.mem_of_mem_filter mem)
    rw [entities] at name
    exact List.mem_singleton.mp name
  refine ⟨paths, ?_⟩
  obtain ⟨output, run, -⟩ := Output.exists_of_paths paths
  refine ⟨output, run, generateFiles_apart _ _ _ run ?_⟩
  exact {
    whole := fun e mem => by
      rw [pet mem]
      decide
    directories := fun wanted => absurd wanted (by decide)
    controllers := fun _ => by
      rw [tags]
      decide
    subjects := fun _ e mem tag tag_mem same => by
      have other : ∀ tag ∈ ["A", "B"], "Pet" ≠ pascalCase tag := by decide
      rw [tags] at tag_mem
      rw [pet mem] at same
      exact absurd same (other tag tag_mem)
    services := fun wanted => absurd wanted (by decide)
    models := fun wanted => absurd wanted (by decide)
    indexes := fun wanted => absurd wanted (by decide)
    outside := fun wanted => absurd wanted (by decide) }

/-- Two tags have one controller each, but in one file: the names of the controllers are made from
the tags twice, and the second time drops what told them apart. -/
theorem generateFiles_collides :
    ∃ output, generateFiles (zoo "a-b" "ab") zooConfig = .ok output ∧
      ¬(output.files.map (·.path)).Nodup := by
  have paths : Output.paths? (generateFiles (zoo "a-b" "ab") zooConfig) = some [
      "Http.API/Controllers/PetController.cs", "Http.API/Controllers/AbController.cs",
      "Http.API/Controllers/AbController.cs"] := by decide +kernel
  obtain ⟨output, run, files⟩ := Output.exists_of_paths paths
  refine ⟨output, run, ?_⟩
  rw [files]
  decide

end Scaffold

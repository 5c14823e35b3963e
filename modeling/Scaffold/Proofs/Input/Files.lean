/-
What does not depend on how a path is spelled. A text gives the same source under every spelling of its
path, but for the file that its declarations name (`Source.ofText_moved`), and a tree has one text at all
spellings that lead to a file (`FileTree.read?_congr`). So what a loader reads at two spellings differs in
that file only (`Loader.source_respelled`), and entities name the file of their source
(`Source.filePath_within`).
-/
import Scaffold.Proofs.Declaration.Files
import Scaffold.Proofs.Input.Extract
import Scaffold.Proofs.Input.Sources
import Scaffold.Proofs.Mapping.Declare
import Scaffold.Proofs.Text.Path

namespace Scaffold

variable {p q : String}

/-! ## Documents -/

namespace Api

variable {document : Json} {e : Entity}

theorem toOption_load (p q : String) (document : Json) :
    (load document q).toOption = (load document p).toOption := by
  unfold load
  split
  · split <;> rfl
  · rfl

theorem entityOf_moved {table : TypeTable} {d : TypeDefinition} {properties : List TypedProperty}
    {namespaceName place : String} (ok : entityOf table d properties namespaceName p place = .ok e) :
    e.filePath = some p ∧
      entityOf table d properties namespaceName q place = .ok (e.movedTo (some q)) := by
  rw [entityOf_eq_ok_iff] at ok
  obtain ⟨distinct, rfl⟩ := ok
  refine ⟨rfl, ?_⟩
  rw [entityOf_eq_ok_iff]
  exact ⟨distinct, rfl⟩

theorem extractEntity_moved {schema : String} (ok : extractEntity document schema p = .ok e) :
    e.filePath = some p ∧ extractEntity document schema q = .ok (e.movedTo (some q)) := by
  unfold extractEntity at ok ⊢
  split at ok
  · cases ok
  · simp only at ok ⊢
    split at ok
    · exact entityOf_moved ok
    · cases ok

theorem filePath_extractEntity {schema : String} (ok : extractEntity document schema p = .ok e) :
    e.filePath = some p :=
  (extractEntity_moved (q := p) ok).1

theorem toOption_extractEntity (p q : String) (document : Json) (schema : String) :
    (extractEntity document schema q).toOption =
      (extractEntity document schema p).toOption.map (·.movedTo (some q)) := by
  cases here : extractEntity document schema p with
  | ok e => rw [(extractEntity_moved here).2]; rfl
  | error f =>
    cases there : extractEntity document schema q with
    | error f' => rfl
    | ok e =>
      rw [(extractEntity_moved there).2] at here
      cases here

end Api

/-! ## Sources -/

/-- The entity with the file it names, or else the given one. -/
def Entity.within (e : Entity) (path : String) : Entity :=
  { e with filePath := e.filePath.or (some path) }

@[simp] theorem Entity.name_within (e : Entity) (path : String) : (e.within path).name = e.name := rfl

/-- The source as if it was read from another file. -/
def Source.movedTo (file : String) : Source → Source
  | .declarations ds => .declarations (ds.map (·.movedTo (some file)))
  | s => s

namespace Path

theorem fileName?_congr (same : key p = key q) : fileName? p = fileName? q := by
  have parts : components p = components q := congrArg Prod.snd same
  rw [fileName?, fileName?, parts]

theorem extension?_congr (same : key p = key q) : extension? p = extension? q := by
  rw [extension?, extension?, fileName?_congr same]

theorem stem?_congr (same : key p = key q) : stem? p = stem? q := by
  rw [stem?, stem?, fileName?_congr same]

end Path

namespace Code

theorem declaration?_moved (p q : String) (item : Item) :
    (Item.declaration? q item).toOption =
      (Item.declaration? p item).toOption.map (·.map (·.movedTo (some q))) := by
  unfold Item.declaration?
  cases item.kind with
  | record name generics fields =>
    refine toOption_bind_map (congrFun Option.map_id _).symm fun settings => ?_
    simp only [id]
    split
    · rfl
    · cases fields with
      | named fields => exact toOption_bind_map (congrFun Option.map_id _).symm fun properties => rfl
      | _ => rfl
  | enumeration name variants =>
    refine toOption_bind_map (congrFun Option.map_id _).symm fun settings => ?_
    simp only [id]
    split <;> rfl
  | _ => rfl

theorem toOption_declarations (p q text : String) :
    (declarations q text).toOption =
      (declarations p text).toOption.map (·.map (·.movedTo (some q))) := by
  rw [declarations, declarations, toOption_mapError, toOption_mapError]
  cases SourceFile.read? text with
  | none => rfl
  | some file =>
    refine toOption_bind_map (x := pure file) (g := fun file => file) rfl fun file => ?_
    refine toOption_bind_map (toOption_mapM_map (declaration?_moved p q) _) fun found => ?_
    show some _ = some ((found.filterMap id).map _)
    rw [List.filterMap_map, List.map_filterMap]
    rfl

end Code

theorem Declaration.toOption_ofDocument (p q : String) (document : Json) :
    (ofDocument q document).toOption =
      (ofDocument p document).toOption.map (·.map (·.movedTo (some q))) := by
  unfold ofDocument
  refine toOption_mapM_map (fun record => ?_) _
  cases ofRecord record <;> rfl

theorem Api.readDocument_moved {text : String} {document : Json} (same : Path.key p = Path.key q)
    (ok : readDocument text p = .ok document) : readDocument text q = .ok document := by
  have json : isJsonText text q = isJsonText text p := by
    rw [isJsonText, isJsonText, Path.extension?_congr same]
  unfold readDocument at ok ⊢
  rw [json]
  split
  · next is_json =>
    rw [if_pos is_json] at ok
    split at ok
    · exact ok
    · cases ok
  · next no_json =>
    rw [if_neg no_json] at ok
    split at ok
    · exact ok
    · cases ok

namespace Source

variable {text : String} {s : Source}

theorem ofTables_moved (same : Path.key p = Path.key q) (ok : ofTables text p = .ok s) :
    ofTables text q = .ok (s.movedTo q) := by
  have namespace_eq : namespaceOf q = namespaceOf p := by
    rw [namespaceOf, namespaceOf, Path.stem?_congr same]
  unfold ofTables Database.readTables at ok ⊢
  rw [namespace_eq]
  cases read : Database.tables? text with
  | none =>
    rw [read] at ok
    cases ok
  | some tables =>
    rw [read] at ok
    cases ok
    rfl

theorem ofDocument_moved (same : Path.key p = Path.key q) (ok : ofDocument text p = .ok s) :
    ofDocument text q = .ok (s.movedTo q) := by
  have extension_eq : extension q = extension p := by
    rw [extension, extension, Path.extension?_congr same]
  obtain ⟨document, read, ok⟩ := eq_ok_of_bind ok
  refine bind_eq_ok_iff.mpr ⟨document, Api.readDocument_moved same read, ?_⟩
  rw [extension_eq]
  split at ok
  · next schema =>
    cases ok
    rw [if_pos schema]
    rfl
  · next other =>
    rw [if_neg other]
    split at ok
    · next json =>
      obtain ⟨ds, declared, ok⟩ := eq_ok_of_bind ok
      cases ok
      have moved := Declaration.toOption_ofDocument p q document
      rw [declared] at moved
      rw [if_pos json, toOption_eq_some_iff.mp moved]
      rfl
    · cases ok

/-- A text gives the same source under every spelling of its path. -/
theorem ofText_moved (same : Path.key p = Path.key q) (ok : ofText text p = .ok s) :
    ofText text q = .ok (s.movedTo q) := by
  have extension_eq : extension q = extension p := by
    rw [extension, extension, Path.extension?_congr same]
  unfold ofText at ok ⊢
  rw [extension_eq]
  split at ok
  · cases declared : Code.declarations p text with
    | error f =>
      rw [declared] at ok
      cases ok
    | ok ds =>
      have moved := Code.toOption_declarations p q text
      rw [declared] at moved ok
      cases ok
      rw [toOption_eq_some_iff.mp moved]
      rfl
  · exact ofTables_moved same ok
  · exact ofDocument_moved same ok
  · exact ofDocument_moved same ok
  · exact ofDocument_moved same ok
  · cases ok

theorem movedTo_of_ofText (made : ofText text p = .ok s) : s = s.movedTo p := by
  have here := ofText_moved rfl made
  rw [made] at here
  exact Except.ok.inj here

theorem declarations_of_relational {m : MappingModel} {ds : List Declaration}
    (made : ofText text p = .ok (.relational m ds)) : ds = m.declarations (namespaceOf p) := by
  have other (ok : ofDocument text p = .ok (.relational m ds)) :
      ds = m.declarations (namespaceOf p) := by
    obtain ⟨document, -, ok⟩ := eq_ok_of_bind ok
    split at ok
    · cases ok
    · split at ok
      · obtain ⟨ds, -, ok⟩ := eq_ok_of_bind ok
        cases ok
      · cases ok
  unfold ofText at made
  split at made
  · cases declared : Code.declarations p text <;> rw [declared] at made <;> cases made
  · obtain ⟨tables, -, ok⟩ := eq_ok_of_bind made
    cases ok
    rfl
  · exact other made
  · exact other made
  · exact other made
  · cases made

/-- The entities of what is read from a file name this file. -/
theorem filePath_within {file : String} {context : Context} {input : EntityInput} {e : Entity}
    (made : ofText text file = .ok s) (mem : input ∈ s.inputs context p) (ok : input.extract = .ok e) :
    (e.within p).filePath = some file ∨ (e.within p).filePath = some p := by
  cases s with
  | declarations ds =>
    have moved := movedTo_of_ofText made
    obtain ⟨d, d_mem, rfl⟩ := List.mem_map.mp mem
    rw [Source.movedTo, Source.declarations.injEq] at moved
    rw [moved, List.mem_filter, List.mem_map] at d_mem
    obtain ⟨⟨d', -, rfl⟩, -⟩ := d_mem
    left
    rw [Entity.within, Context.filePath_extract ok]
    rfl
  | relational m ds =>
    obtain ⟨d, d_mem, rfl⟩ := List.mem_map.mp mem
    obtain ⟨declared, extracted, enriched⟩ := eq_ok_of_bind ok
    have listed := (List.mem_filter.mp d_mem).1
    rw [declarations_of_relational made] at listed
    right
    rw [Entity.within, MappingModel.filePath_enrich enriched, Context.filePath_extract extracted,
      MappingModel.filePath_declarations listed]
    rfl
  | document value =>
    obtain ⟨name, -, rfl⟩ := List.mem_map.mp mem
    right
    rw [Entity.within, Api.filePath_extractEntity ok]
    rfl

end Source

/-! ## Trees -/

namespace FileTree

variable {t : FileTree} {place : Place} {x y : String}

theorem filter_components (path : String) :
    (Path.components path).filter (· != ".") = (Path.parts path).filter (· != ".") := by
  rw [Path.components_eq]
  generalize Path.parts path = parts
  unfold Path.clean
  split
  · split <;> simp
  · simp

theorem filter_way (path : String) :
    (Place.way path).2.filter (· != ".") = (Path.parts path).filter (· != ".") := by
  show (if Text.endsWith "/" path then Path.parts path ++ ["."] else Path.parts path).filter _ = _
  split
  · rw [List.filter_append]
    exact List.append_nil _
  · rfl

/-- Dots on a way lead nowhere else. -/
theorem foldlM_enter_filter {parts : List String} {here : Place}
    (found : parts.foldlM t.enter here = some place) :
    (parts.filter (· != ".")).foldlM t.enter here = some place := by
  induction parts generalizing here with
  | nil => exact found
  | cons part rest ih =>
    rw [List.foldlM_cons] at found
    obtain ⟨next, entered, found⟩ := Option.bind_eq_some_iff.mp found
    by_cases dot : part = "."
    · have stay : here = next := by
        unfold enter at entered
        split at entered
        · simpa [dot] using entered
        · cases entered
      rw [List.filter_cons_of_neg (by simp [dot]), stay]
      exact ih found
    · rw [List.filter_cons_of_pos (by simp [dot]), List.foldlM_cons, entered]
      exact ih found

/-- Where a path leads depends on where it starts and on its parts only, if it leads anywhere. -/
theorem locate?_eq_some {path : String} (found : t.locate? path = some place) :
    ((Path.key path).2.filter (· != ".")).foldlM t.enter (if (Path.key path).1 then ["/"] else []) =
      some place := by
  unfold locate? at found
  split at found
  · cases found
  · replace found : (Place.way path).2.foldlM t.enter (Place.way path).1 = some place := found
    have clean := foldlM_enter_filter found
    rw [filter_way, ← filter_components] at clean
    exact clean

/-- A file has the same text under all spellings of its path that lead to it. -/
theorem read?_congr (same : Path.key p = Path.key q) (here : t.read? p = some x)
    (there : t.read? q = some y) : x = y := by
  have located {path text : String} (read : t.read? path = some text) :
      ∃ place, t.locate? path = some place ∧ t.find? place = some (.file (some text)) := by
    unfold read? at read
    split at read
    · next found =>
      rw [read] at found
      exact Option.bind_eq_some_iff.mp found
    · cases read
  obtain ⟨place, place_found, file⟩ := located here
  obtain ⟨place', place'_found, file'⟩ := located there
  have one := locate?_eq_some place_found
  rw [same, locate?_eq_some place'_found] at one
  cases one
  rw [file] at file'
  cases file'
  rfl

end FileTree

/-! ## Loaders -/

namespace Loader

variable {l l' : Loader} {t : FileTree} {s s' : Source}

/-- What can be read under two spellings of a path is known, or differs in the file that it says it
was read from. -/
theorem source_respelled (same : Path.key p = Path.key q) (here : l.readable t p = some (p, s))
    (there : l.readable t q = some (q, s')) : s = s' ∨ s = s.movedTo p ∧ s' = s.movedTo q := by
  obtain ⟨-, l₁, read⟩ := source_of_readable here
  obtain ⟨-, l₂, read'⟩ := source_of_readable there
  simp only at read read'
  cases known : l.find? p with
  | some first =>
    rw [source_of_known known] at read
    rw [source_of_known ((find?_congr same).symm.trans known)] at read'
    cases read
    cases read'
    exact .inl rfl
  | none =>
    obtain ⟨text, text_at, made, -⟩ := exists_text known read
    obtain ⟨text', text'_at, made', -⟩ := exists_text ((find?_congr same).symm.trans known) read'
    -- Both come of one text, so each is the source of that text moved to its own spelling.
    rw [← FileTree.read?_congr same text_at text'_at] at made'
    have here := Source.ofText_moved rfl made
    have there := Source.ofText_moved same made
    rw [made] at here
    rw [made'] at there
    exact .inr ⟨Except.ok.inj here, Except.ok.inj there⟩

/-- The loader only knows what it could have read. -/
def Faithful (l : Loader) : Prop :=
  ∀ r ∈ l.read, ∃ text, Source.ofText text r.1 = .ok r.2

theorem faithful_empty : Loader.empty.Faithful := by
  intro r mem
  cases mem

/-- What a faithful loader reads is what some text says, at a spelling of the path. -/
theorem Faithful.source (h : l.Faithful) (read : l.source t p = .ok (s, l')) :
    l'.Faithful ∧ ∃ file, samePath file p = true ∧ (l.find? p = none → file = p) ∧
      ∃ text, Source.ofText text file = .ok s := by
  cases known : l.find? p with
  | some first =>
    rw [source_of_known known] at read
    cases read
    obtain ⟨r, found, rfl⟩ := Option.map_eq_some_iff.mp known
    exact ⟨h, r.1, by simpa using List.find?_some found, by simp, h r (List.mem_of_find?_eq_some found)⟩
  | none =>
    obtain ⟨text, -, made, rfl⟩ := exists_text known read
    refine ⟨fun r mem => ?_, p, samePath_iff.mpr rfl, fun _ => rfl, text, made⟩
    rcases List.mem_cons.mp mem with rfl | old
    · exact ⟨text, made⟩
    · exact h r old

/-- Whatever a loader loads, it stays faithful. -/
theorem Faithful.load (h : l.Faithful) (t : FileTree) (paths : List String) :
    (l.load t paths).2.Faithful := by
  show (l.readAll t paths).1.Faithful
  induction paths using List.reverseRecOn with
  | nil => exact h
  | append_singleton paths p ih =>
    rw [readAll_concat, readStep]
    split
    · exact ih
    · split
      · next read => exact (ih.source read).1
      · exact ih

end Loader
end Scaffold

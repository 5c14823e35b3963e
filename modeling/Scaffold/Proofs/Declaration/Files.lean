/-
The file of a class is only passed on to its entity (`filePath_extract`), which is the same otherwise,
wherever the class and those that it refers to are declared: `Context.extract_withoutFiles`. Nor does a
context depend on the order in which classes and enums of different names are declared: files that have no
such name in common can be taken in any order (`ofDeclarations_perm`).
-/
import Mathlib.Data.List.Pairwise
import Mathlib.Data.List.Perm.Basic
import Scaffold.Proofs.Declaration.Extract

namespace Scaffold

/-- The declaration as if it was read from another file. -/
def Declaration.movedTo (d : Declaration) (file : Option String) : Declaration :=
  { d with filePath := file }

/-- The entity as if it was read from another file. -/
def Entity.movedTo (e : Entity) (file : Option String) : Entity :=
  { e with filePath := file }

theorem Entity.validate_movedTo (e : Entity) (file : Option String) :
    (e.movedTo file).validate = .ok () ↔ e.validate = .ok () := by
  rw [validate_eq_ok_iff, validate_eq_ok_iff]
  rfl

namespace Context

variable {context : Context} {d : Declaration} {e : Entity}

/-- The context without the files of its declarations. -/
def withoutFiles (context : Context) : Context :=
  { context with
    declarations := ⟨context.declarations.entries.map fun entry => (entry.1, entry.2.movedTo none)⟩ }

theorem get?_withoutFiles (context : Context) (name : String) :
    context.withoutFiles.declarations.get? name =
      (context.declarations.get? name).map (·.movedTo none) := by
  unfold withoutFiles KeyMap.get?
  induction context.declarations.entries with
  | nil => rfl
  | cons entry rest ih =>
    obtain ⟨k, v⟩ := entry
    rw [List.map_cons, KeyMap.find?, KeyMap.find?, ih]
    split <;> rfl

/-! ## Bases -/

theorem basesAbove_withoutFiles (context : Context) (start start' : Declaration) (fuel : Nat)
    (seen : List String) (current : Declaration) :
    (context.withoutFiles.basesAbove start' fuel seen (current.movedTo none)).toOption =
      (context.basesAbove start fuel seen current).toOption.map (·.map (·.movedTo none)) := by
  induction fuel generalizing seen current with
  | zero => rfl
  | succ fuel ih =>
    have same : (current.movedTo none).baseName? = current.baseName? := rfl
    rw [basesAbove, basesAbove, same]
    cases current.baseName? with
    | none => rfl
    | some base =>
      simp only [get?_withoutFiles]
      cases context.declarations.get? base with
      | none => rfl
      | some next =>
        have named : (next.movedTo none).name = next.name := rfl
        simp only [Option.map_some, named]
        split
        · rfl
        · exact toOption_bind_map (ih (next.name :: seen) next) fun bases => rfl

theorem chain_withoutFiles (context : Context) (d : Declaration) :
    (context.withoutFiles.chain (d.movedTo none)).toOption =
      (context.chain d).toOption.map (·.map (·.movedTo none)) := by
  have fuel : context.withoutFiles.declarations.entries.length =
      context.declarations.entries.length := List.length_map _
  rw [chain, chain, fuel]
  refine toOption_bind_map (basesAbove_withoutFiles context d _ _ [d.name] d) fun bases => ?_
  simp [Except.toOption]

theorem mappedProperties_movedTo (chain : List Declaration) (file : Option String) :
    mappedProperties (chain.map (·.movedTo file)) = mappedProperties chain := by
  rw [mappedProperties, List.flatMap_map]
  rfl

/-! ## Extraction -/

theorem markIndexes_movedTo (chain : List Declaration) (e : Entity) (file file' : Option String) :
    markIndexes (chain.map (·.movedTo file)) (e.movedTo file') =
      (markIndexes chain e).movedTo file' := by
  rw [markIndexes, List.flatMap_map]
  show List.foldl _ _ ((chain.flatMap fun d => d.attributes.filter (·.shortName == "Index")).flatMap
    (·.arguments)) = _
  rw [markIndexes]
  generalize (chain.flatMap fun d => d.attributes.filter (·.shortName == "Index")).flatMap
    (·.arguments) = columns
  induction columns generalizing e with
  | nil => rfl
  | cons column rest ih => exact ih (e.modifyProperty column fun p => { p with isIndexed := true })

theorem finished_movedTo (d : Declaration) (chain : List Declaration) (made : List Property)
    (file file' : Option String) :
    finished (d.movedTo file) (chain.map (·.movedTo file')) made =
      (finished d chain made).movedTo file := by
  have marked := markIndexes_movedTo chain { bare d with properties := made } file' file
  have start : ({ bare (d.movedTo file) with properties := made } : Entity) =
      ({ bare d with properties := made } : Entity).movedTo file := rfl
  rw [finished, mappedProperties_movedTo, start, marked]
  rfl

theorem classify_withoutFiles (context : Context) (d : Declaration) (p : PropertyDeclaration)
    (q : Property) :
    context.withoutFiles.classify (d.movedTo none) p = .ok q ↔ context.classify d p = .ok q := by
  rw [classify_eq_ok_iff, classify_eq_ok_iff]
  rfl

theorem extract_withoutFiles (context : Context) (d : Declaration) :
    (context.withoutFiles.extract (d.movedTo none)).toOption =
      (context.extract d).toOption.map (·.movedTo none) := by
  have chains := chain_withoutFiles context d
  have made {chain : List Declaration} {made : List Property} :
      List.Forall₂ (fun p q => context.withoutFiles.classify (d.movedTo none) p = .ok q)
        (mappedProperties (chain.map (·.movedTo none))) made ↔
        List.Forall₂ (fun p q => context.classify d p = .ok q) (mappedProperties chain) made := by
    rw [mappedProperties_movedTo]
    simp only [classify_withoutFiles]
  refine Option.ext fun bare => ?_
  rw [toOption_eq_some_iff, extract_eq_ok_iff, Option.map_eq_some_iff]
  constructor
  · rintro ⟨no_enum, above, properties, ok, all, distinct, rfl, valid⟩
    rw [← toOption_eq_some_iff, chains, Option.map_eq_some_iff] at ok
    obtain ⟨chain, ok, rfl⟩ := ok
    rw [finished_movedTo, Entity.validate_movedTo] at valid
    refine ⟨finished d chain properties, ?_, (finished_movedTo ..).symm⟩
    rw [toOption_eq_some_iff, extract_eq_ok_iff]
    exact ⟨no_enum, chain, properties, toOption_eq_some_iff.mp ok, made.mp all, distinct, rfl, valid⟩
  · rintro ⟨e, ok, rfl⟩
    rw [toOption_eq_some_iff, extract_eq_ok_iff] at ok
    obtain ⟨no_enum, chain, properties, ok, all, distinct, rfl, valid⟩ := ok
    rw [toOption_eq_some_iff.mpr ok, Option.map_some, toOption_eq_some_iff] at chains
    refine ⟨no_enum, _, properties, chains, made.mpr all, distinct, (finished_movedTo ..).symm, ?_⟩
    rwa [Entity.validate_movedTo]

theorem filePath_extract (ok : context.extract d = .ok e) : e.filePath = d.filePath := by
  obtain ⟨-, chain, made, -, -, -, rfl, -⟩ := extract_eq_ok_iff.mp ok
  obtain ⟨marked, same, -⟩ := markIndexes_eq chain { bare d with properties := made }
  rw [finished, same]
  rfl

end Context

/-! ## Order -/

section Names

variable {α β : Type} {a b : String}

theorem KeyMap.put_comm (other : a ≠ b) (v w : α) (entries : List (String × α)) :
    put b w (put a v entries) = put a v (put b w entries) := by
  -- The place of each of the two depends on the order of names alone.
  induction entries with
  | nil =>
    simp only [put]
    grind
  | cons entry rest ih =>
    simp only [put]
    grind [put]

theorem KeyMap.map_put (f : α → β) (key : String) (v : α) (entries : List (String × α)) :
    (put key v entries).map (fun entry => (entry.1, f entry.2)) =
      put key (f v) (entries.map fun entry => (entry.1, f entry.2)) := by
  induction entries with
  | nil => rfl
  | cons entry rest ih =>
    rw [put, List.map_cons, put]
    split
    · rfl
    · split
      · rfl
      · rw [List.map_cons, ih]

theorem NameSet.insert_comm (a b : String) (names : List String) :
    insert a (insert b names) = insert b (insert a names) := by
  induction names with
  | nil =>
    simp only [insert]
    grind
  | cons name rest ih =>
    simp only [insert]
    grind [insert]

end Names

namespace Context

variable {d d' : Declaration} {ds ds' : List Declaration}

theorem register_comm (other : d.name ≠ d'.name) (context : Context) :
    (context.register d).register d' = (context.register d').register d := by
  unfold register KeyMap.insert
  simp only [KeyMap.put_comm other]
  congr 1
  · cases d.isEnum <;> cases d'.isEnum <;> simp [NameSet.insert_comm d'.name]
  · cases d.isEnum <;> cases d'.isEnum <;> simp [NameSet.insert_comm d'.name]

theorem foldl_register_register (fresh : d.name ∉ ds.map (·.name)) (context : Context) :
    ds.foldl register (context.register d) = (ds.foldl register context).register d := by
  induction ds generalizing context with
  | nil => rfl
  | cons first rest ih =>
    rw [List.map_cons, List.mem_cons, not_or] at fresh
    rw [List.foldl_cons, List.foldl_cons, register_comm fresh.1, ih fresh.2]

theorem foldl_register_comm (apart : (ds.map (·.name)).Disjoint (ds'.map (·.name)))
    (context : Context) :
    ds'.foldl register (ds.foldl register context) =
      ds.foldl register (ds'.foldl register context) := by
  induction ds generalizing context with
  | nil => rfl
  | cons d rest ih =>
    rw [List.map_cons, List.disjoint_cons_left] at apart
    rw [List.foldl_cons, List.foldl_cons, ih apart.2, foldl_register_register apart.1]

/-- Files that declare no common name can be taken in any order. -/
theorem ofDeclarations_perm {files files' : List (List Declaration)} (order : files.Perm files')
    (apart : files.Pairwise fun ds ds' => (ds.map (·.name)).Disjoint (ds'.map (·.name))) :
    ofDeclarations files.flatten = ofDeclarations files'.flatten := by
  let swaps (ds ds' : List Declaration) : Prop := ∀ context,
    ds'.foldl register (ds.foldl register context) = ds.foldl register (ds'.foldl register context)
  have all : ∀ ds ∈ files, ∀ ds' ∈ files, swaps ds ds' := by
    have symm : Std.Symm swaps := ⟨fun ds ds' swap context => (swap context).symm⟩
    have each := apart.imp fun {ds ds'} apart => foldl_register_comm apart
    exact fun ds mem ds' mem' =>
      each.forall_of_forall (R := swaps) (fun ds _ context => rfl) mem mem'
  -- Registering a file is one step of a loop over files, and these steps commute.
  rw [ofDeclarations, ofDeclarations, List.foldl_flatten, List.foldl_flatten]
  exact order.foldl_eq' (fun ds mem ds' mem' context => all ds mem ds' mem' context) empty

theorem withoutFiles_ofDeclarations (ds : List Declaration) :
    (ofDeclarations ds).withoutFiles = ofDeclarations (ds.map (·.movedTo none)) := by
  have step (context : Context) (d : Declaration) :
      (context.register d).withoutFiles = context.withoutFiles.register (d.movedTo none) := by
    have put := KeyMap.map_put (Declaration.movedTo · none) d.name d context.declarations.entries
    exact congrArg (fun entries => { context.register d with declarations := ⟨entries⟩ }) put
  have grown (context : Context) : (ds.foldl register context).withoutFiles =
      (ds.map (·.movedTo none)).foldl register context.withoutFiles := by
    induction ds generalizing context with
    | nil => rfl
    | cons d rest ih => rw [List.foldl_cons, ih, step, List.map_cons, List.foldl_cons]
  exact grown empty

end Context
end Scaffold

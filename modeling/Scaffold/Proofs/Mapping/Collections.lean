/-
Which class gets which collection. A foreign key adds a collection to the class of its principal if the
class has no property of that name (`hasOnly_collection`), and whatever comes later leaves it
there: `ClassHas.foldl_addCollections`.
-/
import Scaffold.Proofs.Mapping.Declare

namespace Scaffold
namespace MappingModel

variable {m : MappingModel} {namespaceName : String} {e : EntityMapping} {k : ForeignKeyMapping}
  {ds : List Declaration} {d : Declaration} {p : PropertyDeclaration} {name element owner : String}
  {P Q : Declaration → Prop}

/-- The class has no property of the name. -/
def Fresh (d : Declaration) (name : String) : Prop :=
  ∀ q ∈ d.properties, q.name ≠ name

instance (d : Declaration) (name : String) : Decidable (Fresh d name) :=
  inferInstanceAs (Decidable (∀ q ∈ d.properties, q.name ≠ name))

theorem addCollectionTo_of_fresh (fresh : Fresh d name) :
    addCollectionTo name element d = { d with properties := d.properties ++ [collection name element] } :=
  if_pos (List.all_eq_true.mpr fun q mem => bne_iff_ne.mpr (fresh q mem))

theorem addCollectionTo_of_not_fresh (taken : ¬Fresh d name) : addCollectionTo name element d = d := by
  refine if_neg fun all => taken fun q mem => ?_
  exact bne_iff_ne.mp (List.all_eq_true.mp all q mem)

@[simp] theorem name_addCollectionTo : (addCollectionTo name element d).name = d.name := by
  by_cases fresh : Fresh d name
  · rw [addCollectionTo_of_fresh fresh]
  · rw [addCollectionTo_of_not_fresh fresh]

/-- A collection is added under a name that is free. -/
theorem hasOnly_collection (fresh : Fresh d name) :
    (addCollectionTo name element d).HasOnly (collection name element) := by
  rw [addCollectionTo_of_fresh fresh]
  refine ⟨by simp, fun q mem same => ?_⟩
  rcases List.mem_append.mp mem with old | new
  · exact absurd same (fresh q old)
  · exact List.mem_singleton.mp new

/-- Afterwards the name is not free. -/
theorem not_fresh_addCollectionTo : ¬Fresh (addCollectionTo name element d) name := by
  by_cases fresh : Fresh d name
  · intro still
    exact still _ (hasOnly_collection fresh).1 rfl
  · rw [addCollectionTo_of_not_fresh fresh]
    exact fresh

/-- What adding a collection to a class keeps. -/
def Kept (P : Declaration → Prop) : Prop :=
  ∀ name element d, P d → P (addCollectionTo name element d)

theorem kept_hasOnly (p : PropertyDeclaration) : Kept (Declaration.HasOnly · p) := by
  intro name element d ⟨mem, only⟩
  by_cases fresh : Fresh d name
  · rw [addCollectionTo_of_fresh fresh]
    refine ⟨List.mem_append_left _ mem, fun q q_mem same => ?_⟩
    rcases List.mem_append.mp q_mem with old | new
    · exact only q old same
    · rw [List.mem_singleton.mp new] at same
      exact absurd same.symm (fresh p mem)
  · rw [addCollectionTo_of_not_fresh fresh]
    exact ⟨mem, only⟩

theorem kept_not_fresh (taken : String) : Kept (¬Fresh · taken) := by
  intro name element d not_fresh
  by_cases fresh : Fresh d name
  · rw [addCollectionTo_of_fresh fresh]
    exact fun still => not_fresh fun q mem => still q (List.mem_append_left _ mem)
  · rwa [addCollectionTo_of_not_fresh fresh]

/-! ## The class of a name -/

theorem find?_addCollection (owner name element : String) (ds : List Declaration) (other : String) :
    (addCollection owner name element ds).find? (·.name == other) =
      (ds.find? (·.name == other)).map fun d =>
        if other = owner then addCollectionTo name element d else d := by
  induction ds with
  | nil => rfl
  | cons d rest ih =>
    rw [addCollection]
    by_cases own : d.name = owner
    · subst own
      rw [if_pos rfl]
      by_cases here : d.name = other
      · subst here
        simp
      · simp [here, Ne.symm here]
    · rw [if_neg own]
      by_cases here : d.name = other
      · subst here
        simp [own]
      · simpa [here] using ih

/-- There is a class of the name, and the first one is such. -/
def ClassHas (owner : String) (P : Declaration → Prop) (ds : List Declaration) : Prop :=
  ∃ d, ds.find? (·.name == owner) = some d ∧ P d

instance [DecidablePred P] (owner : String) (ds : List Declaration) : Decidable (ClassHas owner P ds) :=
  match found : ds.find? (·.name == owner) with
  | none => isFalse fun ⟨_, some_class, _⟩ => by rw [found] at some_class; cases some_class
  | some d => decidable_of_iff (P d) (by simp [ClassHas, found])

namespace ClassHas

theorem addCollection (kept : Kept P) (h : ClassHas owner P ds) (other : String) :
    ClassHas owner P (addCollection other name element ds) := by
  obtain ⟨d, found, holds⟩ := h
  refine ⟨_, by rw [find?_addCollection, found, Option.map_some], ?_⟩
  split
  · exact kept name element d holds
  · exact holds

theorem addInverse (kept : Kept P) (h : ClassHas owner P ds) (e : EntityMapping)
    (k : ForeignKeyMapping) : ClassHas owner P (addInverse e ds k) := by
  unfold MappingModel.addInverse
  split
  · exact h.addCollection kept k.principal
  · exact h

theorem foldl_addInverse (kept : Kept P) (e : EntityMapping) (keys : List ForeignKeyMapping)
    (h : ClassHas owner P ds) : ClassHas owner P (keys.foldl (MappingModel.addInverse e) ds) := by
  induction keys generalizing ds with
  | nil => exact h
  | cons k rest ih => exact ih (h.addInverse kept e k)

theorem foldl_addCollections (kept : Kept P) (es : List EntityMapping) (h : ClassHas owner P ds) :
    ClassHas owner P (es.foldl addCollections ds) := by
  induction es generalizing ds with
  | nil => exact h
  | cons e rest ih =>
    exact ih (addCollections_induction (P := ClassHas owner P)
      (fun ds other name element _ h => h.addCollection kept other) h)

/-- What a foreign key with an inverse does to the class of its principal. -/
theorem addInverse_self (inverse : k.inverse = some name)
    (step : ∀ d, P d → Q (addCollectionTo name e.name d)) (h : ClassHas k.principal P ds) :
    ClassHas k.principal Q (MappingModel.addInverse e ds k) := by
  obtain ⟨d, found, holds⟩ := h
  refine ⟨addCollectionTo name e.name d, ?_, step d holds⟩
  rw [MappingModel.addInverse, inverse]
  simp only [find?_addCollection, found, Option.map_some, if_true]

end ClassHas

/-- The classes as they stand when a foreign key of an entity has its turn: the entities before and the
earlier keys of its own have had theirs. -/
def classesBefore (m : MappingModel) (namespaceName : String) (before : List EntityMapping)
    (e : EntityMapping) (earlier : List ForeignKeyMapping) : List Declaration :=
  earlier.foldl (addInverse e) (before.foldl addCollections (m.entities.map (classOf namespaceName)))

variable {before after : List EntityMapping} {earlier later : List ForeignKeyMapping}

theorem classes_eq (entities : m.entities = before ++ e :: after) (no_join : e.isJoinTable = false)
    (keys : e.foreignKeys = earlier ++ k :: later) :
    m.classes namespaceName = after.foldl addCollections
      (later.foldl (addInverse e) (addInverse e (m.classesBefore namespaceName before e earlier) k)) := by
  rw [classes, classesBefore]
  conv_lhs => arg 3; rw [entities]
  rw [List.foldl_append, List.foldl_cons, addCollections_of_not_join no_join, keys, List.foldl_append,
    List.foldl_cons]

/-- The collection that a foreign key adds is still there in the end, and the only property of its
name. -/
theorem classHas_collection (entities : m.entities = before ++ e :: after)
    (no_join : e.isJoinTable = false) (keys : e.foreignKeys = earlier ++ k :: later)
    (inverse : k.inverse = some name)
    (fresh : ClassHas k.principal (Fresh · name) (m.classesBefore namespaceName before e earlier)) :
    ClassHas k.principal (Declaration.HasOnly · (collection name e.name)) (m.classes namespaceName) := by
  have added : ClassHas k.principal (Declaration.HasOnly · (collection name e.name)) _ :=
    fresh.addInverse_self inverse fun d free => hasOnly_collection free
  have kept := kept_hasOnly (collection name e.name)
  rw [classes_eq entities no_join keys]
  exact (added.foldl_addInverse kept e later).foldl_addCollections kept after

/-- A name that an earlier foreign key to the same principal gave is not free. -/
theorem classHas_not_fresh (known : ∃ e' ∈ m.entities, e'.name = k.principal) (mem : k ∈ earlier)
    (inverse : k.inverse = some name) :
    ClassHas k.principal (¬Fresh · name) (m.classesBefore namespaceName before e earlier) := by
  obtain ⟨first, second, rfl⟩ := List.append_of_mem mem
  have start : ClassHas k.principal (fun _ => True) (m.entities.map (classOf namespaceName)) := by
    obtain ⟨e', e'_mem, named⟩ := known
    have found : ((m.entities.map (classOf namespaceName)).find? (·.name == k.principal)).isSome := by
      rw [List.isSome_find?, List.any_eq_true]
      exact ⟨_, List.mem_map_of_mem e'_mem, beq_iff_eq.mpr named⟩
    obtain ⟨d, found⟩ := Option.isSome_iff_exists.mp found
    exact ⟨d, found, trivial⟩
  have always : Kept fun _ => True := fun _ _ _ _ => trivial
  have turn := (start.foldl_addCollections always before).foldl_addInverse always e first
  have given : ClassHas k.principal (¬Fresh · name) _ :=
    turn.addInverse_self (e := e) inverse fun d _ => not_fresh_addCollectionTo
  rw [classesBefore, List.foldl_append, List.foldl_cons]
  exact given.foldl_addInverse (kept_not_fresh name) e second

end MappingModel
end Scaffold

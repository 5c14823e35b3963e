/-
Tables as mappings: every table is an entity under a singular name, and its foreign keys keep their
columns and principals when both ends are named (`Table.key`). The classes of the entities have types
that are read, if the names that come of the tables are plain: `read_classes`.
-/
import Scaffold.Database.Table
import Scaffold.Proofs.Mapping.Declare

namespace Scaffold
namespace Database

open MappingModel TypeExpr

variable {tables : List Table} {t : Table} {k : ForeignKey}

/-- The mapping of a table with its navigations named. -/
def Table.entity (t : Table) : EntityMapping :=
  nameNavigations t.mapping

/-- The mapping of a foreign key of a table with both ends named. -/
def Table.key (t : Table) (k : ForeignKey) : ForeignKeyMapping :=
  nameNavigation t.mapping (foreignKeyMapping t k)

theorem entities_mappingModel (tables : List Table) :
    (mappingModel tables).entities = tables.map Table.entity := rfl

theorem mem_entities {e : EntityMapping} :
    e ∈ (mappingModel tables).entities ↔ ∃ t ∈ tables, t.entity = e := by
  rw [entities_mappingModel, List.mem_map]

@[simp] theorem Table.name_entity (t : Table) : t.entity.name = entityName t.name := rfl

@[simp] theorem Table.columns_entity (t : Table) :
    t.entity.columns = t.columns.map (columnMapping (entityName t.name)) := rfl

theorem Table.foreignKeys_entity (t : Table) : t.entity.foreignKeys = t.foreignKeys.map t.key := by
  show (t.foreignKeys.map _).map _ = _
  rw [List.map_map]
  rfl

theorem isEntity_context_iff {namespaceName : String} (name : String) :
    ((mappingModel tables).context namespaceName).isEntity name = true ↔
      ∃ t ∈ tables, entityName t.name = name := by
  rw [isEntity_context]
  simp only [mem_entities, exists_exists_and_eq_and, Table.name_entity]

theorem names_entities (tables : List Table) :
    (mappingModel tables).entities.map (·.name) = tables.map (entityName ·.name) := by
  rw [entities_mappingModel, List.map_map]
  exact List.map_congr_left fun t _ => t.name_entity

theorem entity?_of_mem (distinct : (tables.map (entityName ·.name)).Nodup) (mem : t ∈ tables) :
    (mappingModel tables).entity? (entityName t.name) = some t.entity := by
  rw [← names_entities] at distinct
  have found := find?_of_mem distinct (mem_entities.mpr ⟨t, mem, rfl⟩)
  rw [Table.name_entity] at found
  exact found

theorem nodup_classes (distinct : (tables.map (entityName ·.name)).Nodup) (namespaceName : String) :
    (((mappingModel tables).classes namespaceName).map (·.name)).Nodup := by
  rw [← map_eq_map (f := (·.name)) (classes_spec _ namespaceName) fun e d h => h.name.symm,
    names_entities]
  exact distinct

/-- Every class is made for a table. -/
theorem exists_table_of_class {namespaceName : String} {d : Declaration}
    (cls : d ∈ (mappingModel tables).classes namespaceName) :
    ∃ t ∈ tables, ClassFor (mappingModel tables) namespaceName t.entity d := by
  obtain ⟨e, e_mem, made⟩ := exists_of_mem_right (classes_spec _ namespaceName) cls
  obtain ⟨t, t_mem, rfl⟩ := mem_entities.mp e_mem
  exact ⟨t, t_mem, made⟩

/-! ## Foreign keys -/

/-- Naming the ends of a foreign key changes nothing else, and names both or none. -/
theorem nameNavigation_spec (e : EntityMapping) (k : ForeignKeyMapping) :
    nameNavigation e k = k ∨ ∃ navigation inverse,
      nameNavigation e k = { k with navigation := some navigation, inverse := some inverse } ∧
        ∀ c ∈ e.columns, c.property ≠ navigation := by
  unfold nameNavigation
  split
  · exact .inl rfl
  · extract_lets navigation plural isShared
    by_cases taken : e.columns.any (·.property == navigation) = true
    · exact .inl (if_pos taken)
    · refine .inr ⟨_, _, if_neg taken, fun c mem same => taken ?_⟩
      exact List.any_eq_true.mpr ⟨c, mem, beq_iff_eq.mpr same⟩

@[simp] theorem Table.principal_key (t : Table) (k : ForeignKey) :
    (t.key k).principal = entityName k.table := by
  rcases nameNavigation_spec t.mapping (foreignKeyMapping t k) with same | ⟨_, _, same, -⟩
  · rw [Table.key, same, foreignKeyMapping]
  · rw [Table.key, same, foreignKeyMapping]

@[simp] theorem Table.properties_key (t : Table) (k : ForeignKey) :
    (t.key k).properties = [Text.pascalCase k.column] := by
  rcases nameNavigation_spec t.mapping (foreignKeyMapping t k) with same | ⟨_, _, same, -⟩
  · rw [Table.key, same, foreignKeyMapping]
  · rw [Table.key, same, foreignKeyMapping]

@[simp] theorem Table.isRequired_key (t : Table) (k : ForeignKey) :
    (t.key k).isRequired = (t.columns.find? (·.name == k.column)).any (!·.isNullable) := by
  rcases nameNavigation_spec t.mapping (foreignKeyMapping t k) with same | ⟨_, _, same, -⟩
  · rw [Table.key, same, foreignKeyMapping]
  · rw [Table.key, same, foreignKeyMapping]

/-- No column has the name of a navigation. -/
theorem Table.fresh_navigation {n : String} (named : (t.key k).navigation = some n) :
    ∀ c ∈ t.entity.columns, c.property ≠ n := by
  rcases nameNavigation_spec t.mapping (foreignKeyMapping t k) with same | ⟨_, _, same, fresh⟩
  · rw [Table.key, same, foreignKeyMapping] at named
    cases named
  · rw [Table.key, same] at named
    cases named
    exact fresh

/-! ## Types of columns -/

/-- The type of a column is a primitive or a list of bytes. -/
theorem canonicalOf_mem (small : String) (isUnsigned : Bool) :
    canonicalOf small isUnsigned ∈ "List<byte>" :: Primitive.all.map Primitive.name := by
  have choice {p : Prop} [Decidable p] {a b : String} {names : List String} (first : a ∈ names)
      (second : b ∈ names) : (if p then a else b) ∈ names := by
    split
    · exact first
    · exact second
  unfold canonicalOf
  extract_lets starts
  repeat' refine choice ?_ ?_
  all_goals decide

/-- Every column without values of its own has a type that is read. -/
theorem read_canonicalType (c : Column) (nullable : Bool) :
    ∃ type, parse (markedType (canonicalType c) nullable) = .ok type ∧ type.Simple := by
  rcases List.mem_cons.mp (canonicalOf_mem (Text.lowercase c.dataType) c.isUnsigned) with bytes | one
  · have simple : (list (named "byte")).Simple :=
      Simple.list ⟨.primitive .byte false, rfl⟩
    refine ⟨_, ?_, simple.withNullable nullable⟩
    rw [canonicalType, bytes, ← parse_text_of_canonical (simple.withNullable nullable).canonical]
    cases nullable <;> rfl
  · obtain ⟨p, -, same⟩ := List.mem_map.mp one
    have plain : PlainName (canonicalType c) := by
      rw [canonicalType, ← same]
      exact plainName_primitive p
    exact ⟨_, parse_markedType plain nullable, (simple_apply plain).withNullable nullable⟩

/-! ## Types of classes -/

/-- The names of a table that are written as types are plain: those of its enums, and at foreign keys
its own and that of the principal. -/
structure Table.PlainNames (t : Table) : Prop where
  enum : ∀ c ∈ t.columns, c.enumValues.isSome = true → PlainName (enumName (entityName t.name) c.name)
  dependent : t.foreignKeys ≠ [] → PlainName (entityName t.name)
  principal : ∀ k ∈ t.foreignKeys, PlainName (entityName k.table)

theorem read_columnProperty (plain : t.PlainNames) {c : Column} (mem : c ∈ t.columns) :
    ∃ type, parse (columnProperty t.entity (columnMapping (entityName t.name) c)).typeText = .ok type ∧
      type.Simple := by
  show ∃ type, parse (markedType (Option.getD _ _) c.isNullable) = .ok type ∧ _
  cases values : c.enumValues with
  | none => exact read_canonicalType c c.isNullable
  | some values =>
    have plain := plain.enum c mem (by rw [values]; rfl)
    exact ⟨_, parse_markedType plain _, (simple_apply plain).withNullable _⟩

theorem Table.PlainNames.of_relates (plain : t.PlainNames) {name : String}
    (relates : Relates t.entity name) : PlainName name := by
  obtain ⟨k, mem, named⟩ := relates
  rw [Table.foreignKeys_entity] at mem
  obtain ⟨key, key_mem, rfl⟩ := List.mem_map.mp mem
  rcases named with rfl | rfl
  · exact plain.dependent (List.ne_nil_of_mem key_mem)
  · rw [Table.principal_key]
    exact plain.principal key key_mem

theorem read_classes (plain : ∀ t ∈ tables, t.PlainNames) {namespaceName : String} {d : Declaration}
    (cls : d ∈ (mappingModel tables).classes namespaceName) :
    ∀ p ∈ d.properties, ∃ type, parse p.typeText = .ok type ∧ type.Simple := by
  obtain ⟨t, t_mem, made⟩ := exists_table_of_class cls
  obtain ⟨added, properties, -, -, collections⟩ := made.properties
  intro p mem
  rw [properties, List.mem_append] at mem
  rcases mem with own | mem
  · rcases List.mem_append.mp own with column | reference
    · rw [Table.columns_entity, List.map_map] at column
      obtain ⟨c, c_mem, rfl⟩ := List.mem_map.mp column
      exact read_columnProperty (plain t t_mem) c_mem
    · obtain ⟨k, k_mem, made⟩ := List.mem_filterMap.mp reference
      have plain := (plain t t_mem).of_relates ⟨k, k_mem, .inr rfl⟩
      exact ⟨_, parse_referenceProperty? plain made, (simple_apply plain).withNullable _⟩
  -- The collections come from other tables, which name themselves and their principals.
  · obtain ⟨e', e'_mem, element, relates, collection⟩ := collections p mem
    obtain ⟨t', t'_mem, rfl⟩ := mem_entities.mp e'_mem
    have plain := (plain t' t'_mem).of_relates relates
    rw [collection]
    exact ⟨_, parse_collection plain, (simple_apply plain).list⟩

end Database
end Scaffold

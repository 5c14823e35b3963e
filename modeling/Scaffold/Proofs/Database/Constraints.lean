/-
Foreign keys of several columns. A constraint is taken apart into one key for each pair of a column and
the column it refers to, and each becomes a mapping of its own: `keys_entity`. So the mappings of a table
are its constraints, each as a whole, exactly if every constraint names one column on both sides:
`constraints_mapped_iff`.
-/
import Mathlib.Data.List.Forall2
import Scaffold.Database.Schema
import Scaffold.Proofs.Database.Tables

namespace Scaffold
namespace Database

/-- A foreign key as a constraint states it. -/
structure StatedKey where
  columns : List String
  table : String
  referenced : List String
deriving DecidableEq, Repr

def Constraint.key? : Constraint → Option StatedKey
  | .foreignKey columns table referenced => some ⟨columns, table, referenced⟩
  | _ => none

/-- The foreign keys that a statement states for the table it creates. -/
def Statement.keys? : Statement → Option (List StatedKey)
  | .createTable _ _ constraints => some (constraints.filterMap Constraint.key?)
  | .other => none

namespace StatedKey

variable {k : StatedKey} {m : ForeignKeyMapping}

/-- The mapping has all columns of the key, on both sides and in order. -/
structure Maps (k : StatedKey) (m : ForeignKeyMapping) : Prop where
  properties : m.properties = k.columns.map Text.pascalCase
  principal : m.principal = entityName k.table
  principalKeys : m.principalKeys = k.referenced.map Text.pascalCase

def IsSingle (k : StatedKey) : Prop :=
  k.columns.length = 1 ∧ k.referenced.length = 1

instance (k : StatedKey) : Decidable k.IsSingle :=
  inferInstanceAs (Decidable (_ ∧ _))

/-- The parts of a key, a column each. What one side has more than the other is left out. -/
def parts (k : StatedKey) : List StatedKey :=
  (k.columns.zip k.referenced).map fun (column, other) => ⟨[column], k.table, [other]⟩

theorem parts_of_isSingle (single : k.IsSingle) : k.parts = [k] := by
  obtain ⟨columns, table, referenced⟩ := k
  obtain ⟨one, other⟩ := single
  obtain ⟨column, rfl⟩ := List.length_eq_one_iff.mp one
  obtain ⟨target, rfl⟩ := List.length_eq_one_iff.mp other
  rfl

theorem isSingle_of_mem_parts {part : StatedKey} (mem : part ∈ k.parts) : part.IsSingle := by
  obtain ⟨pair, -, rfl⟩ := List.mem_map.mp mem
  exact ⟨rfl, rfl⟩

/-- A mapping shows how many columns its key has. -/
theorem Maps.isSingle_iff (maps : k.Maps m) :
    k.IsSingle ↔ m.properties.length = 1 ∧ m.principalKeys.length = 1 := by
  rw [maps.properties, maps.principalKeys, List.length_map, List.length_map]
  rfl

/-- Mappings of the parts are mappings of the keys if there is nothing to take apart. -/
theorem maps_iff_of_parts {keys : List StatedKey} {mappings : List ForeignKeyMapping}
    (apart : List.Forall₂ Maps (keys.flatMap parts) mappings) :
    List.Forall₂ Maps keys mappings ↔ ∀ k ∈ keys, k.IsSingle := by
  constructor
  · intro whole k mem
    obtain ⟨m, m_mem, maps⟩ := exists_of_mem_left whole mem
    obtain ⟨part, part_mem, part_maps⟩ := exists_of_mem_right apart m_mem
    obtain ⟨k', -, part_mem⟩ := List.mem_flatMap.mp part_mem
    rw [maps.isSingle_iff, ← part_maps.isSingle_iff]
    exact isSingle_of_mem_parts part_mem
  · intro single
    have same : keys.flatMap parts = keys := by
      rw [List.flatMap_congr fun k mem => parts_of_isSingle (single k mem), List.flatMap_singleton']
    rwa [same] at apart

end StatedKey

/-! ## Tables -/

def StatedKey.toKeys (k : StatedKey) : List ForeignKey :=
  (k.columns.zip k.referenced).map fun (column, other) => ⟨column, k.table, other⟩

theorem foreignKeys_apply (t : Table) (c : Constraint) :
    (t.apply c).foreignKeys = t.foreignKeys ++ (c.key?.map StatedKey.toKeys).getD [] := by
  cases c with
  | foreignKey => rfl
  | primaryKey | unique | index | other => exact (List.append_nil _).symm

theorem foreignKeys_foldl_apply (constraints : List Constraint) (t : Table) :
    (constraints.foldl Table.apply t).foreignKeys =
      t.foreignKeys ++ (constraints.filterMap Constraint.key?).flatMap StatedKey.toKeys := by
  induction constraints generalizing t with
  | nil => simp
  | cons c rest ih =>
    rw [List.foldl_cons, ih, foreignKeys_apply, List.filterMap_cons, List.append_assoc]
    cases c.key? with
    | none => rfl
    | some k => rfl

@[simp] theorem Table.principalKeys_key (t : Table) (k : ForeignKey) :
    (t.key k).principalKeys = [Text.pascalCase k.referenced] := by
  rcases nameNavigation_spec t.mapping (foreignKeyMapping t k) with same | ⟨_, _, same, -⟩
  · rw [Table.key, same, foreignKeyMapping]
  · rw [Table.key, same, foreignKeyMapping]

theorem StatedKey.maps_parts (t : Table) (k : StatedKey) :
    List.Forall₂ Maps k.parts (k.toKeys.map t.key) := by
  rw [parts, toKeys, List.forall₂_map_left_iff, List.map_map, List.forall₂_map_right_iff,
    List.forall₂_same]
  intro pair _
  exact ⟨t.properties_key _, t.principal_key _, t.principalKeys_key _⟩

theorem maps_entity (name : String) (columns : List ColumnDefinition) (constraints : List Constraint) :
    List.Forall₂ StatedKey.Maps ((constraints.filterMap Constraint.key?).flatMap StatedKey.parts)
      (constraints.foldl Table.apply (.ofColumns name columns)).entity.foreignKeys := by
  rw [Table.foreignKeys_entity, foreignKeys_foldl_apply]
  show List.Forall₂ _ _ (List.map _ (List.flatMap _ _))
  rw [List.map_flatMap]
  refine List.rel_flatMap (R := Eq) (List.forall₂_same.mpr fun _ _ => rfl) ?_
  rintro k _ rfl
  exact k.maps_parts _

/-- The entities of the tables that are created, in order, and the keys stated for them. -/
theorem maps_entities (statements : List Statement) :
    List.Forall₂ (fun keys e => List.Forall₂ StatedKey.Maps (keys.flatMap StatedKey.parts) e.foreignKeys)
      (statements.filterMap Statement.keys?)
      (mappingModel (statements.filterMap Table.ofStatement?)).entities := by
  rw [entities_mappingModel]
  induction statements with
  | nil => exact .nil
  | cons s rest ih =>
    cases s with
    | other => exact ih
    | createTable name columns constraints => exact .cons (maps_entity name columns constraints) ih

/-- The foreign keys of every created table are mapped part by part. They are the mappings of its
constraints, one of each, exactly if each constraint names one column on both sides. -/
theorem constraints_mapped_iff {text : String} {tables : List Table} (read : tables? text = some tables) :
    ∃ statements, statements? text = some statements ∧
      List.Forall₂ (fun keys e =>
          List.Forall₂ StatedKey.Maps (keys.flatMap StatedKey.parts) e.foreignKeys ∧
          (List.Forall₂ StatedKey.Maps keys e.foreignKeys ↔ ∀ k ∈ keys, k.IsSingle))
        (statements.filterMap Statement.keys?) (mappingModel tables).entities := by
  obtain ⟨statements, parsed, rfl⟩ := Option.map_eq_some_iff.mp read
  refine ⟨statements, parsed, (maps_entities statements).imp ?_⟩
  intro keys e apart
  exact ⟨apart, StatedKey.maps_iff_of_parts apart⟩

section Schemas

-- The characters of a schema are a list that is as deep as it is long.
set_option maxRecDepth 2000

/-- Transfers with a key to an account on both ends. -/
def transferSchema : String :=
  "CREATE TABLE transfers (source INT, target INT,
    FOREIGN KEY (source) REFERENCES accounts (id), FOREIGN KEY (target) REFERENCES accounts (id))"

def transferKeys : List (List StatedKey) :=
  [[⟨["source"], "accounts", ["id"]⟩, ⟨["target"], "accounts", ["id"]⟩]]

theorem constraints_mapped_transfers :
    ∃ tables, tables? transferSchema = some tables ∧
      List.Forall₂ (fun keys e => List.Forall₂ StatedKey.Maps keys e.foreignKeys) transferKeys
        (mappingModel tables).entities := by
  have stated : (statements? transferSchema).map (·.filterMap Statement.keys?) = some transferKeys := by
    rw [show transferSchema = String.ofList _ from rfl, statements?_ofList]
    decide +kernel
  obtain ⟨statements, parsed, keys⟩ := Option.map_eq_some_iff.mp stated
  have read : tables? transferSchema = some (statements.filterMap Table.ofStatement?) := by
    rw [tables?, parsed, Option.map_some]
  obtain ⟨statements', parsed', all⟩ := constraints_mapped_iff read
  rw [parsed] at parsed'
  cases parsed'
  rw [keys] at all
  refine ⟨_, read, ?_⟩
  match (mappingModel _).entities, all with
  | _, .cons ⟨_, transfers⟩ .nil => exact .cons (transfers.mpr (by decide)) .nil

/-- Notes on the lines of orders, which have a key of two columns. -/
def noteSchema : String :=
  "CREATE TABLE notes (order_id BIGINT, line INT,
    FOREIGN KEY (order_id, line) REFERENCES order_lines (order_id, line))"

/-- The key of a note is one constraint and two mappings. -/
theorem noteSchema_taken_apart :
    ∃ statements tables, statements? noteSchema = some statements ∧ tables? noteSchema = some tables ∧
      ¬List.Forall₂ (fun keys e => List.Forall₂ StatedKey.Maps keys e.foreignKeys)
        (statements.filterMap Statement.keys?) (mappingModel tables).entities := by
  have counted : (statements? noteSchema).map (fun statements =>
      ((statements.filterMap Statement.keys?).map List.length,
        (mappingModel (statements.filterMap Table.ofStatement?)).entities.map (·.foreignKeys.length))) =
      some ([1], [2]) := by
    rw [show noteSchema = String.ofList _ from rfl, statements?_ofList]
    decide +kernel
  obtain ⟨statements, parsed, counts⟩ := Option.map_eq_some_iff.mp counted
  have read : tables? noteSchema = some (statements.filterMap Table.ofStatement?) := by
    rw [tables?, parsed, Option.map_some]
  obtain ⟨stated, mapped⟩ := Prod.mk.inj counts
  refine ⟨statements, _, parsed, read, fun whole => ?_⟩
  have same := map_eq_map whole fun keys e maps => maps.length_eq
  rw [stated, mapped] at same
  cases same

end Schemas

end Database
end Scaffold
